import DesignRules.Datum
import DesignRules.Rule.Basic

/-! # Violations

A violation says which rule is broken where. A result holds the violations of one run
and their number by severity.
-/

namespace DesignRules

structure Violation where
  id : String
  ruleId : String
  ruleName : String
  severity : Severity
  category : Category
  location : String
  description : String
  suggestion : String
  affectedComponents : Option (List String)
  affectedInterfaces : Option (List String)
  affectedConnections : Option (List String)
  details : Option Fields

/-- What a check says about one breach of a rule. -/
structure Finding where
  location : String
  description : String
  suggestion : String
  components : Option (List String) := none
  interfaces : Option (List String) := none
  connections : Option (List String) := none
  details : Option Fields := none

/-- The violation of a rule, not numbered yet, with a severity given for it. -/
def Rule.violationAt (rule : Rule) (severity : Severity) (finding : Finding) : Violation where
  id := ""
  ruleId := rule.code
  ruleName := rule.name
  severity := severity
  category := rule.category
  location := finding.location
  description := finding.description
  suggestion := finding.suggestion
  affectedComponents := finding.components
  affectedInterfaces := finding.interfaces
  affectedConnections := finding.connections
  details := finding.details

def Rule.violation (rule : Rule) (finding : Finding) : Violation :=
  rule.violationAt rule.severity finding

structure Summary where
  critical : Int
  warning : Int
  info : Int
  deriving DecidableEq, Repr

namespace Summary

def empty : Summary := ⟨0, 0, 0⟩

def count (severity : Severity) (violations : List Violation) : Int :=
  (violations.filter (·.severity == severity)).length

def of (violations : List Violation) : Summary where
  critical := count .critical violations
  warning := count .warning violations
  info := count .info violations

end Summary

structure Result where
  timestamp : String
  totalChecks : Int
  violations : List Violation
  summary : Summary
  passed : Bool

end DesignRules
