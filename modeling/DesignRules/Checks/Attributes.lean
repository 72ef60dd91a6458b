import DesignRules.Checks.Context

/-! # Attributes of components and interfaces

Labels and data widths that are missing or unusual, labels used twice, and interface
names that do not fit the pattern.
-/

namespace DesignRules.Checks

def hasBlankLabel (n : Node) : Bool := (Text.trim n.label) == ""

def requiredLabel (ctx : Context) : List Violation :=
  (ctx.diagram.nodes.filter hasBlankLabel).map fun n =>
    Rule.requiredLabel.violation
      { location := "Component " ++ n.id
        description := "Component missing required label/name"
        suggestion := "Add a descriptive label to the component"
        components := some [n.id]
        details := some
          [("nodeId", .text n.id), ("modelType", .text ((filled n.modelType).getD "Unknown"))] }

/-- Every interface of every node entry, with the entry's identifier. -/
def ports (ctx : Context) : List (String × Interface) :=
  ctx.diagram.nodes.flatMap fun n => (ctx.interfaces n.id).map fun i => (n.id, i)

def portLocation (ctx : Context) (node : String) (i : Interface) : String :=
  ctx.label node ++ "." ++ i.name

def missingWidth (ctx : Context) (node : String) (i : Interface) : Violation :=
  Rule.requiredDataWidth.violation
    { location := portLocation ctx node i
      description := "Interface '" ++ i.name ++ "' is missing required 'dataWidth' property"
      suggestion := "Add a \"dataWidth\" property to the interface with a numeric value " ++
        "(e.g., 64, 128, 256, 512, 1024)"
      components := some [node]
      interfaces := some [i.id]
      details := some
        [("interfaceName", .text i.name), ("interfaceId", .text i.id),
         ("availableProperties", .texts i.declared)] }

def widthKind : Width → String
  | .flag _ => "bool"
  | .number _ => "int"
  | .fraction _ => "float"
  | .word _ => "str"

def invalidWidth (ctx : Context) (node : String) (i : Interface) (w : Width) :
    Except CheckFailure Violation :=
  (writtenWidth w).map fun text => Rule.requiredDataWidth.violation
    { location := portLocation ctx node i
      description := "Interface '" ++ i.name ++ "' has invalid 'dataWidth' value: " ++ text
      suggestion := "Set \"dataWidth\" to a positive numeric value (e.g., 64, 128, 256, 512, 1024)"
      components := some [node]
      interfaces := some [i.id]
      details := some [("currentDataWidth", w.toDatum), ("dataWidthType", .text (widthKind w))] }

def writtenWidths (widths : List Int) : Except CheckFailure String :=
  (widths.mapM fun n => writtenWidth (.number n)).map (", ".intercalate ·)

def unusualWidth (ctx : Context) (node : String) (i : Interface) (w : Width) :
    Except CheckFailure Violation := do
  let text ← writtenWidth w
  let standard ← writtenWidths ctx.settings.canonicalWidths
  return Rule.dataWidthRange.violation
    { location := portLocation ctx node i
      description := "Unusual interface data width: " ++ text ++ " bits"
      suggestion := "Consider using standard widths: " ++ standard
      components := some [node]
      interfaces := some [i.id]
      details := some
        [("currentDataWidth", w.toDatum),
         ("recommendedWidths", .list (ctx.settings.canonicalWidths.map .int))] }

/-- A width is valid if it is a positive number. An integer beyond the floats cannot be
told from infinity and is refused. -/
def isValidWidth : Width → Except CheckFailure Bool
  | .number n => if Binary64.isBeyond n then .error .beyondFloats else .ok (decide (0 < n))
  | .fraction x =>
    match x.extended? with
    | some value => .ok (!value.le (.ofInt 0))
    | none => .ok false
  | _ => .ok false

def isCanonical (ctx : Context) : Width → Bool
  | .number n => ctx.settings.canonicalWidths.contains n
  | _ => false

def widthViolation? (ctx : Context) (node : String) (i : Interface) :
    Except CheckFailure (Option Violation) :=
  match i.dataWidth with
  | none => .ok (some (missingWidth ctx node i))
  | some w => do
    if ← isValidWidth w then
      if isCanonical ctx w then return none
      else return some (← unusualWidth ctx node i w)
    else return some (← invalidWidth ctx node i w)

def dataWidths : Check := fun ctx =>
  ((ports ctx).mapM fun (node, i) => widthViolation? ctx node i).map
    fun found : List (Option Violation) => found.filterMap id

/-- The labels that are not blank, each with the identifiers of its entries. -/
def labelUses (d : Diagram) : List (String × List String) :=
  (groupBy (·.label) (d.nodes.filter fun n => !hasBlankLabel n)).map fun (label, nodes) =>
    (label, nodes.map (·.id))

def uniqueLabels (ctx : Context) : List Violation :=
  ((labelUses ctx.diagram).filter fun (_, ids) => decide (1 < ids.length)).map fun (label, ids) =>
    Rule.uniqueLabels.violation
      { location := label
        description := "Duplicate component name '" ++ label ++ "' used " ++
          Numeral.ofNat ids.length ++ " times"
        suggestion := "Use unique names for each component instance (e.g., CPU_0, CPU_1)"
        components := some ids
        details := some [("duplicateCount", .int ids.length), ("nodeIds", .texts ids)] }

def unconventionalName (ctx : Context) (node : String) (i : Interface) : Violation :=
  Rule.interfaceNaming.violation
    { location := portLocation ctx node i
      description := "Interface name '" ++ i.name ++ "' doesn't follow naming convention"
      suggestion := "Use lowercase with underscores or hyphens (e.g., axi_master_0)"
      components := some [node]
      interfaces := some [i.id] }

def patternFailure : Pattern.Fault → CheckFailure
  | .malformed => .badPattern
  | .oversizedBound => .oversizedPattern
  | .oversizedNumber => .oversizedNumber

/-- Tells which names of interfaces fit the pattern of the settings. -/
def nameTest (ctx : Context) : Except Pattern.Fault (String → Bool) :=
  ctx.patterns.compile ctx.settings.namePattern

def interfaceNaming : Check := fun ctx =>
  match nameTest ctx with
  | .error fault => .error (patternFailure fault)
  | .ok isName =>
    .ok (((ports ctx).filter fun (_, i) => !isName i.name).map fun (node, i) =>
      unconventionalName ctx node i)

end DesignRules.Checks
