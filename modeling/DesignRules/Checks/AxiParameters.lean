import DesignRules.Checks.Connections

/-! # Parameters of AXI connections

The widths and clocks at the two ends of a connection between AXI interfaces.
-/

namespace DesignRules.Checks

def axiWired (ctx : Context) : List (Connection × Interface × Interface) :=
  ctx.wired.filter fun (_, source, target) => source.isAxi && target.isAxi

/-- Two widths that are both given and do not agree. -/
def differingWidths? : Option Width → Option Width → Option (Width × Width)
  | some a, some b => if a.isTrue && b.isTrue && !a.agrees b then some (a, b) else none
  | _, _ => none

/-- Two numeric widths of which the first is not at most the second. -/
def exceedingWidths? : Option Width → Option Width → Option (Width × Width)
  | some a, some b =>
    if a.isNumber && b.isNumber && a.isTrue && b.isTrue && !a.atMost b then some (a, b) else none
  | _, _ => none

/-- Reports the connections at whose ends two widths conflict, with the texts of both. -/
def conflictingWidths (ctx : Context) (rule : Rule) (aspect : String)
    (width : Interface → Option Width)
    (conflict? : Option Width → Option Width → Option (Width × Width))
    (description suggestion : String → String → String) :
    Except CheckFailure (List Violation) :=
  let conflicts := (axiWired ctx).filterMap fun (e, source, target) =>
    (conflict? (width source) (width target)).map fun widths => (e, source, target, widths)
  conflicts.mapM fun (e, source, target, a, b) => do
    let sourceText ← writtenWidth a
    let targetText ← writtenWidth b
    return rule.violation (ctx.endFinding e source target aspect a.toDatum b.toDatum
      (description sourceText targetText) (suggestion sourceText targetText))

def dataWidthMatching : Check := fun ctx =>
  conflictingWidths ctx .dataWidthMatching "dataWidth" (·.dataWidth) differingWidths?
    (fun a b => "AXI4 data width mismatch: " ++ a ++ "-bit → " ++ b ++ "-bit")
    (fun _ _ => "Use matching data widths or add a width converter")

def idWidthCompatibility : Check := fun ctx =>
  conflictingWidths ctx .idWidthCompatibility "idWidth" (·.idWidth) exceedingWidths?
    (fun a b => "Master ID width (" ++ a ++ " bits) exceeds slave ID width (" ++ b ++ " bits)")
    (fun a b => "Increase slave ID width to at least " ++ a ++
      " bits or reduce master ID width to " ++ b ++ " bits")

def addrWidthConsistency : Check := fun ctx =>
  conflictingWidths ctx .addrWidthConsistency "addrWidth" (·.addrWidth) differingWidths?
    (fun a b => "AXI4 address width mismatch: " ++ a ++ "-bit → " ++ b ++ "-bit")
    (fun _ _ => "Consider using consistent address widths or verify address mapping")

def clockCompatibility (ctx : Context) : List Violation :=
  (axiWired ctx).filterMap fun (e, source, target) =>
    (differingClocks? source target).map fun (a, b) =>
      Rule.clockCompatibility.violation
        (ctx.endFinding e source target "speed" (.text a) (.text b)
          ("Clock frequency mismatch: " ++ a ++ " → " ++ b)
          "Add clock domain crossing logic or synchronize to same clock")

end DesignRules.Checks
