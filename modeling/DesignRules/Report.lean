import DesignRules.Violation.Basic

/-! # Reports

The readable report on a list of violations, grouped by category, and the line that
sums a result up.
-/

namespace DesignRules.Report

/-- Why the details of a violation cannot be reported. -/
inductive ReportError where
  | missingPath
  | malformed
  | unwritable
  deriving DecidableEq, Repr

def shown (value : Datum) : Except ReportError String :=
  match value.display? with
  | some s => .ok s
  | none => .error .unwritable

/-- A value that counts as true, between two texts; nothing for any other. -/
def part (before : String) (value : Option Datum) (after : String) : Except ReportError String :=
  match value.filter Datum.isTrue with
  | some value => (shown value).map fun s => before ++ s ++ after
  | none => .ok ""

def endpointLine (label : String) (endpoint : Fields) : Except ReportError String := do
  let node ← shown ((endpoint.get? "node").filter Datum.isTrue |>.getD (.text "N/A"))
  let interface ← part "." (endpoint.get? "interface") ""
  let direction ← part " (" (endpoint.get? "direction") ")"
  let bus ← part " [" (endpoint.get? "busType") "]"
  let width ← part " " (endpoint.get? "dataWidth") "-bit"
  return "   - " ++ label ++ ": " ++ node ++ interface ++ direction ++ bus ++ width

def endpointLines (label : String) : Option Datum → Except ReportError (List String)
  | some (.object endpoint) => (endpointLine label endpoint).map ([·])
  | _ => .ok []

def masterPath : Datum → Except ReportError Datum
  | .object master =>
    match Fields.get? master "fullPath" with
    | some path => .ok path
    | none => .error .missingPath
  | _ => .error .malformed

def pathText : Datum → Except ReportError String
  | .text s => .ok s
  | _ => .error .malformed

def mastersLines (masters : Option Datum) : Except ReportError (List String) :=
  match masters.filter Datum.isTrue with
  | none => .ok []
  | some (.list items) => do
    let paths ← (← items.mapM masterPath).mapM pathText
    return ["   - Competing masters: " ++ ", ".intercalate paths]
  | some _ => .error .malformed

def detailLines (details : Fields) : Except ReportError (List String) := do
  let source ← endpointLines "Source" (details.get? "source")
  let target ← endpointLines "Target" (details.get? "target")
  let masters ← mastersLines (details.get? "masters")
  return source ++ target ++ masters

def headLines (index : Nat) (v : Violation) : List String :=
  [Numeral.ofNat index ++ ". **" ++ v.ruleName ++ "** [" ++ v.ruleId ++ "] - " ++ v.severity.name,
   "   - Problem: " ++ v.description] ++
  (if v.location = "" ∨ v.location = "N/A" then [] else ["   - Location: " ++ v.location]) ++
  (if v.suggestion = "" then [] else ["   - How to fix: " ++ v.suggestion])

def entry (index : Nat) (v : Violation) : Except ReportError (List String) :=
  (detailLines (v.details.getD [])).map (headLines index v ++ ·)

def entriesFrom : Nat → List Violation → Except ReportError (List String)
  | _, [] => .ok []
  | index, v :: rest => do
    let lines ← entry index v
    let more ← entriesFrom (index + 1) rest
    return lines ++ more

def ofCategory (category : Category) (vs : List Violation) : List Violation :=
  vs.filter (·.category == category)

def sectionTitle (category : Category) (vs : List Violation) : String :=
  "## " ++ category.name ++ " Issues (" ++ Numeral.ofNat vs.length ++ ")"

/-- The section of a category, unless no violation belongs to it. -/
def sectionLines (vs : List Violation) (category : Category) : Except ReportError (List String) :=
  match ofCategory category vs with
  | [] => .ok []
  | items => (entriesFrom 1 items).map fun lines => sectionTitle category items :: lines ++ [""]

def title (vs : List Violation) : String :=
  "Found " ++ Numeral.ofNat vs.length ++ " DRC violation(s):"

def joinLines (lines : List String) : String :=
  String.ofList (Text.trimEnd ("\n".intercalate lines).toList) ++ "\n"

/-- The report, with the categories in their order and the entries of each numbered from
one. -/
def format (vs : List Violation) : Except ReportError String :=
  if vs.isEmpty then .ok "No violations found."
  else do
    let sections ← Category.all.mapM (sectionLines vs)
    return joinLines (title vs :: "" :: sections.flatten)

def statusName (passed : Bool) : String := if passed then "PASSED" else "FAILED"

def summaryLine (r : Result) : String :=
  "DRC " ++ statusName r.passed ++ ": " ++ Numeral.decimal r.summary.critical ++ " critical, " ++
    Numeral.decimal r.summary.warning ++ " warning, " ++ Numeral.decimal r.summary.info ++
    " info (" ++ Numeral.decimal r.totalChecks ++ " violation(s) total, checked at " ++
    r.timestamp ++ ")."

end DesignRules.Report
