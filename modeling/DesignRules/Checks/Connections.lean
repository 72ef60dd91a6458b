import DesignRules.Checks.Context

/-! # Connections

A connection joins existing components, interfaces with matching roles and the same bus
type, and ends that run at the same clock.
-/

namespace DesignRules.Checks

def edgeLocation (e : Connection) : String :=
  if e.id = "" then "Connection from '" ++ e.source ++ "' to '" ++ e.target ++ "'"
  else "Connection " ++ e.id

def missingEnd (e : Connection) (description : String) (ends : Fields) : Violation :=
  let edge : Fields := [("edgeId", .text (if e.id = "" then "N/A" else e.id))]
  Rule.endpointExistence.violation
    { location := edgeLocation e
      description := description
      suggestion := "Remove the invalid connection or add the missing component"
      connections := some (edgeIds [e])
      details := some (ends ++ edge) }

def missingSource (e : Connection) : Violation :=
  missingEnd e ("Source node '" ++ e.source ++ "' does not exist")
    [("missingNode", .text e.source), ("targetNode", .text e.target)]

def missingTarget (e : Connection) : Violation :=
  missingEnd e ("Target node '" ++ e.target ++ "' does not exist")
    [("sourceNode", .text e.source), ("missingNode", .text e.target)]

def endpointExistence (ctx : Context) : List Violation :=
  ctx.diagram.edges.flatMap fun e =>
    (if ctx.diagram.hasNode e.source then [] else [missingSource e]) ++
      (if ctx.diagram.hasNode e.target then [] else [missingTarget e])

/-- A rule that two directions break when wired together, and what to say about it. -/
structure DirectionFault where
  rule : Rule
  severity : Severity
  description : String
  suggestion : String

def directionFault? : Direction → Direction → Option DirectionFault
  | .master, .slave => none
  | .master, target => some
    { rule := .roleMatching
      severity := .critical
      description := "Master interface connected to non-slave interface (" ++ target.name ++
        "). Master interfaces must connect to slave interfaces."
      suggestion := "Ensure master interfaces connect only to slave interfaces. " ++
        "If connecting to an interconnect, use its slave port." }
  | .slave, .slave => some
    { rule := .roleMatching
      severity := .critical
      description := "Slave interface connected to slave interface. " ++
        "Two slave interfaces cannot communicate directly."
      suggestion := "Slave interfaces must be connected to master interfaces. " ++
        "You may need an interconnect or bridge component." }
  | .output, .output => some
    { rule := .signalDirection
      severity := .critical
      description := "Output signal connected to output signal. " ++
        "Two outputs cannot be connected together."
      suggestion := "Connect output signals to input signals only. Check the signal direction." }
  | .input, .input => some
    { rule := .signalDirection
      severity := .critical
      description := "Input signal connected to input signal. " ++
        "Two inputs cannot be connected together."
      suggestion := "Connect input signals from output signals. " ++
        "Check the signal direction and connection order." }
  | .input, .output => some
    { rule := .signalDirection
      severity := .warning
      description := "Input connected to output. Connection direction may be reversed."
      suggestion := "Typically, connections flow from output to input. " ++
        "Consider reversing this connection." }
  | _, _ => none

def roleMatching (ctx : Context) : List Violation :=
  ctx.wired.filterMap fun (e, source, target) =>
    (directionFault? source.direction target.direction).map fun fault =>
      fault.rule.violationAt fault.severity
        (ctx.endFinding e source target "direction" (.text source.direction.name)
          (.text target.direction.name) fault.description fault.suggestion)

/-- The bus types of two interfaces that both name one and not the same. -/
def differingBuses? (source target : Interface) : Option (String × String) :=
  match filled source.busType, filled target.busType with
  | some a, some b => if BusType.normalize a = BusType.normalize b then none else some (a, b)
  | _, _ => none

def busTypeMatching (ctx : Context) : List Violation :=
  ctx.wired.filterMap fun (e, source, target) =>
    (differingBuses? source target).map fun (a, b) =>
      Rule.busTypeMatching.violation
        (ctx.endFinding e source target "busType" (.text a) (.text b)
          ("Bus type mismatch: " ++ a ++ " → " ++ b)
          "Change interface types to match or add a protocol converter")

/-- The clocks of two interfaces that both name one and not the same. -/
def differingClocks? (source target : Interface) : Option (String × String) :=
  match filled source.speed, filled target.speed with
  | some a, some b => if a = b then none else some (a, b)
  | _, _ => none

def clockDomainCrossing (ctx : Context) : List Violation :=
  ctx.wired.filterMap fun (e, source, target) =>
    (differingClocks? source target).map fun (a, b) =>
      Rule.clockDomainCrossing.violation
        { location := ctx.label e.source ++ " → " ++ ctx.label e.target
          description := "Clock domain crossing detected: " ++ a ++ " → " ++ b
          suggestion := "Add clock domain crossing synchronizers (async FIFO or dual-clock FIFO)"
          components := some [e.source, e.target]
          connections := some (edgeIds [e])
          details := some
            [("sourceClockFreq", .text a), ("targetClockFreq", .text b),
             ("sourceInterface", .text source.name), ("targetInterface", .text target.name)] }

end DesignRules.Checks
