import DesignRules.Proofs.Schema.Writing
import DesignRules.Proofs.Written
import DesignRules.Violation.Reading
import DesignRules.Violation.Writing

/-! # Results written and read again

A result that is written as data is read as it was, but for details that JSON has no form for:
infinities and NaNs have become null, and moments and keys have become texts. What is then written
again is the same as before.
-/

namespace DesignRules

open Schema Schema.Checked

/-! ## Violations -/

section Fields

variable (key other : String)

theorem get?_textField (value : String) :
    (textField key value).get? other = if key = other then some (.text value) else none := by
  simp [textField, Fields.get?_singleton]

theorem get?_listField (items : Option (List String)) :
    (listField key items).get? other = if key = other then items.map .texts else none := by
  cases items with
  | none => simp [listField, Fields.get?]
  | some items => simp [listField, Fields.get?_singleton]

theorem get?_detailsField (details : Option Fields) :
    (detailsField details).get? other =
      if "details" = other then details.map fun given => .object given.written else none := by
  cases details with
  | none => simp [detailsField, Fields.get?]
  | some given => simp [detailsField, Fields.get?_singleton]

end Fields

theorem Severity.read_name (s : Severity) : choice ofName? (.text s.name) = .valid s := by
  cases s <;> decide +kernel

theorem Category.read_name (c : Category) : choice ofName? (.text c.name) = .valid c := by
  cases c <;> decide +kernel

namespace Violation

variable (v : Violation)

/-- The violation with its details as they are written. -/
def written : Violation := { v with details := v.details.map Fields.written }

def HasJsonDetails : Prop := ∀ given ∈ v.details, (Datum.object given).IsJsonData

def HasFiniteDetails : Prop := ∀ given ∈ v.details, (Datum.object given).IsFinite

theorem get?_toFields (key : String) : v.toFields.get? key =
    ((if "id" = key then some (.text v.id) else none).or <|
      (if "ruleId" = key then some (.text v.ruleId) else none).or <|
      (if "ruleName" = key then some (.text v.ruleName) else none).or <|
      (if "severity" = key then some (.text v.severity.name) else none).or <|
      (if "category" = key then some (.text v.category.name) else none).or <|
      (if "location" = key then some (.text v.location) else none).or <|
      (if "description" = key then some (.text v.description) else none).or <|
      (if "suggestion" = key then some (.text v.suggestion) else none).or <|
      (if "affectedComponents" = key then v.affectedComponents.map .texts else none).or <|
      (if "affectedInterfaces" = key then v.affectedInterfaces.map .texts else none).or <|
      (if "affectedConnections" = key then v.affectedConnections.map .texts else none).or <|
      if "details" = key then v.details.map fun given => .object given.written else none) := by
  simp only [toFields, Fields.get?_append, get?_textField, get?_listField, get?_detailsField,
    Option.or_assoc]

theorem read_texts {name : Name} {items : Option (List String)}
    (hcamel : v.toFields.get? name.camel = items.map .texts)
    (hplain : v.toFields.get? name.plain = none) :
    optional name none (nullable (list text)) v.toFields = .valid items :=
  optional_of_written hcamel (fun _ => hplain) fun items => congrArg (map some) (list_texts items)

theorem ofFields_toFields : ofFields v.toFields = .valid v.written := by
  have hid : optional (.same "id") "" text v.toFields = .valid v.id :=
    optional_of_get? (get?_toFields v "id") rfl
  have hruleId : required Field.ruleId text v.toFields = .valid v.ruleId :=
    required_of_get? (get?_toFields v "ruleId") rfl
  have hruleName : required Field.ruleName text v.toFields = .valid v.ruleName :=
    required_of_get? (get?_toFields v "ruleName") rfl
  have hseverity : required (.same "severity") (choice Severity.ofName?) v.toFields =
      .valid v.severity :=
    required_of_get? (get?_toFields v "severity") v.severity.read_name
  have hcategory : required (.same "category") (choice Category.ofName?) v.toFields =
      .valid v.category :=
    required_of_get? (get?_toFields v "category") v.category.read_name
  have hlocation : required (.same "location") text v.toFields = .valid v.location :=
    required_of_get? (get?_toFields v "location") rfl
  have hdescription : required (.same "description") text v.toFields = .valid v.description :=
    required_of_get? (get?_toFields v "description") rfl
  have hsuggestion : required (.same "suggestion") text v.toFields = .valid v.suggestion :=
    required_of_get? (get?_toFields v "suggestion") rfl
  have hcomponents : optional Field.affectedComponents none (nullable (list text)) v.toFields =
      .valid v.affectedComponents :=
    v.read_texts (by simp [get?_toFields, Field.affectedComponents])
      (by simp [get?_toFields, Field.affectedComponents])
  have hinterfaces : optional Field.affectedInterfaces none (nullable (list text)) v.toFields =
      .valid v.affectedInterfaces :=
    v.read_texts (by simp [get?_toFields, Field.affectedInterfaces])
      (by simp [get?_toFields, Field.affectedInterfaces])
  have hconnections : optional Field.affectedConnections none (nullable (list text)) v.toFields =
      .valid v.affectedConnections :=
    v.read_texts (by simp [get?_toFields, Field.affectedConnections])
      (by simp [get?_toFields, Field.affectedConnections])
  have hdetails : optional (.same "details") none (nullable dictionary) v.toFields =
      .valid (v.details.map Fields.written) := by
    have hget : v.toFields.get? "details" = (v.details.map Fields.written).map .object := by
      rw [get?_toFields, Option.map_map]
      rfl
    refine optional_of_written hget (fun hnone => ?_) fun _ => rfl
    rw [hnone] at hget
    exact hget
  rw [ofFields, hid, hruleId, hruleName, hseverity, hcategory, hlocation, hdescription,
    hsuggestion, hcomponents, hinterfaces, hconnections, hdetails]
  rfl

theorem read_toDatum : read v.toDatum = .valid v.written :=
  v.ofFields_toFields

theorem written_eq_self_iff : v.written = v ↔ v.HasJsonDetails ∧ v.HasFiniteDetails := by
  have hdetails : v.details.map Fields.written = v.details ↔
      v.HasJsonDetails ∧ v.HasFiniteDetails := by
    unfold HasJsonDetails HasFiniteDetails
    cases v.details with
    | none => simp
    | some given =>
      simp only [Option.map_some, Option.some.injEq, Option.mem_some_iff, forall_eq',
        ← Datum.written_eq_self_iff, Datum.written, Datum.object.injEq, Fields.written]
  rw [← hdetails]
  constructor
  · exact fun h => congrArg details h
  · exact fun h => congrArg (fun written => { v with details := written }) h

end Violation

/-! ## Results -/

theorem Summary.read_toDatum (s : Summary) : Summary.read s.toDatum = .valid s :=
  rfl

namespace Result

variable (r : Result)

/-- The result with its violations as they are written. -/
def written : Result := { r with violations := r.violations.map Violation.written }

/-- The details of all violations are data as JSON has it. -/
def HasJsonDetails : Prop := ∀ v ∈ r.violations, v.HasJsonDetails

def HasFiniteDetails : Prop := ∀ v ∈ r.violations, v.HasFiniteDetails

theorem read_toDatum : read r.toDatum = .valid r.written := by
  have hviolations : list Violation.read (.list (r.violations.map Violation.toDatum)) =
      .valid (r.violations.map Violation.written) :=
    list_map fun v _ => v.read_toDatum
  have hfield : optional (.same "violations") [] (list Violation.read)
      [("timestamp", .text r.timestamp), ("totalChecks", .int r.totalChecks),
        ("violations", .list (r.violations.map Violation.toDatum)),
        ("summary", r.summary.toDatum), ("passed", .bool r.passed)] =
      .valid (r.violations.map Violation.written) :=
    optional_of_get? rfl hviolations
  rw [toDatum, read, fields, andThen, ofFields, hfield]
  rfl

theorem written_eq_self_iff : r.written = r ↔ r.HasJsonDetails ∧ r.HasFiniteDetails := by
  have hviolations : r.violations.map Violation.written = r.violations ↔
      r.HasJsonDetails ∧ r.HasFiniteDetails := by
    calc r.violations.map Violation.written = r.violations
        ↔ r.violations.map Violation.written = r.violations.map id := by rw [List.map_id]
      _ ↔ ∀ v ∈ r.violations, v.written = v := List.map_inj_left
      _ ↔ ∀ v ∈ r.violations, v.HasJsonDetails ∧ v.HasFiniteDetails :=
        forall₂_congr fun v _ => v.written_eq_self_iff
      _ ↔ r.HasJsonDetails ∧ r.HasFiniteDetails := by
        simp only [HasJsonDetails, HasFiniteDetails, forall_and]
  rw [← hviolations]
  constructor
  · exact fun h => congrArg violations h
  · exact fun h => congrArg (fun written => { r with violations := written }) h

end Result

end DesignRules
