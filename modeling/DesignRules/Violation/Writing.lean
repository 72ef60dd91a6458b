import DesignRules.Violation.Basic

/-! # Results as data

The written form of a result. Attributes that are not set are left out, while a null
inside the details stays. Within the details keys become texts, and so do moments.
-/

namespace DesignRules

def textField (key : String) (value : String) : Fields := [(key, .text value)]

def listField (key : String) : Option (List String) → Fields
  | some items => [(key, .texts items)]
  | none => []

def detailsField : Option Fields → Fields
  | some details => [("details", .object details.written)]
  | none => []

namespace Violation

def toFields (v : Violation) : Fields :=
  textField "id" v.id ++ textField "ruleId" v.ruleId ++ textField "ruleName" v.ruleName ++
  textField "severity" v.severity.name ++ textField "category" v.category.name ++
  textField "location" v.location ++ textField "description" v.description ++
  textField "suggestion" v.suggestion ++
  listField "affectedComponents" v.affectedComponents ++
  listField "affectedInterfaces" v.affectedInterfaces ++
  listField "affectedConnections" v.affectedConnections ++
  detailsField v.details

def toDatum (v : Violation) : Datum := .object v.toFields

end Violation

namespace Summary

def toDatum (s : Summary) : Datum :=
  .object [("critical", .int s.critical), ("warning", .int s.warning), ("info", .int s.info)]

end Summary

namespace Result

def toDatum (r : Result) : Datum := .object
  [("timestamp", .text r.timestamp), ("totalChecks", .int r.totalChecks),
   ("violations", .list (r.violations.map Violation.toDatum)),
   ("summary", r.summary.toDatum), ("passed", .bool r.passed)]

end Result

end DesignRules
