import DesignRules.Schema.Field
import DesignRules.Violation.Basic

/-! # Reading results

Violations and results from data, and violations from the rule and the finding that
they are made of.
-/

namespace DesignRules

open Schema Schema.Checked

namespace Violation

namespace Field

def ruleId : Name := ⟨"ruleId", "rule_id"⟩
def ruleName : Name := ⟨"ruleName", "rule_name"⟩
def affectedComponents : Name := ⟨"affectedComponents", "affected_components"⟩
def affectedInterfaces : Name := ⟨"affectedInterfaces", "affected_interfaces"⟩
def affectedConnections : Name := ⟨"affectedConnections", "affected_connections"⟩

end Field

def ofFields (given : Fields) : Checked Violation :=
  Violation.mk
    <$> optional (.same "id") "" text given
    <*> required Field.ruleId text given
    <*> required Field.ruleName text given
    <*> required (.same "severity") (choice Severity.ofName?) given
    <*> required (.same "category") (choice Category.ofName?) given
    <*> required (.same "location") text given
    <*> required (.same "description") text given
    <*> required (.same "suggestion") text given
    <*> optional Field.affectedComponents none (nullable (list text)) given
    <*> optional Field.affectedInterfaces none (nullable (list text)) given
    <*> optional Field.affectedConnections none (nullable (list text)) given
    <*> optional (.same "details") none (nullable dictionary) given

def read (value : Datum) : Checked Violation := (fields value).andThen ofFields

/-- Why a rule and a finding given as data make no violation. -/
inductive SpecError where
  | unknownRule (code : Datum)
  | badArguments
  | invalid (issues : List Issue)

def requiredArguments : List String := ["rule_id", "location", "description", "suggestion"]

def arguments : List String :=
  requiredArguments ++
    ["severity", "affected_components", "affected_interfaces", "affected_connections", "details"]

/-- The arguments are exactly known ones and include the required ones. -/
def hasArguments (given : Fields) : Bool :=
  requiredArguments.all (fun key => (given.get? key).isSome) &&
    given.all fun field => field.1.text?.any arguments.contains

/-- Fills in the name, the category and, unless one is given, the severity of the rule. -/
def completed (rule : Rule) (given : Fields) : Fields :=
  let rest := (given.remove "rule_id").remove "severity"
  let severity := match given.get? "severity" with
    | some value => if value.isTrue then value else .text rule.severity.name
    | none => .text rule.severity.name
  ("rule_id", .text rule.code) :: ("rule_name", .text rule.name) :: ("severity", severity) ::
    ("category", .text rule.category.name) :: rest

def ofSpec (spec : Datum) : Except SpecError Violation :=
  match spec with
  | .object given =>
    if !hasArguments given then .error .badArguments
    else
      match Fields.get? given "rule_id" with
      | some (.text code) =>
        match Rule.ofCode? code with
        | none => .error (.unknownRule (.text code))
        | some rule =>
          match ofFields (completed rule given) with
          | .valid v => .ok v
          | .invalid issues => .error (.invalid issues)
      | some (.list _) | some (.object _) => .error .badArguments
      | some code => .error (.unknownRule code)
      | none => .error .badArguments
  | _ => .error .badArguments

end Violation

namespace Summary

def ofFields (given : Fields) : Checked Summary :=
  Summary.mk
    <$> optional (.same "critical") 0 integer given
    <*> optional (.same "warning") 0 integer given
    <*> optional (.same "info") 0 integer given

def read (value : Datum) : Checked Summary := (fields value).andThen ofFields

end Summary

namespace Result

def ofFields (given : Fields) : Checked Result :=
  Result.mk
    <$> required (.same "timestamp") text given
    <*> required ⟨"totalChecks", "total_checks"⟩ integer given
    <*> optional (.same "violations") [] (list Violation.read) given
    <*> optional (.same "summary") .empty Summary.read given
    <*> required (.same "passed") flag given

def read (value : Datum) : Checked Result := (fields value).andThen ofFields

end Result

end DesignRules
