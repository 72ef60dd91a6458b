import DesignRules.Checks.Context
import DesignRules.Graph.Circuits

/-! # Topology

Circuits, components without a connection, crowded interconnects and long paths.
-/

namespace DesignRules.Checks

def circuitLabels (ctx : Context) (circuit : List String) : List String :=
  (circuit ++ circuit.take 1).map ctx.label

def circularDependency (ctx : Context) : List Violation :=
  ctx.diagram.circuits.map fun circuit =>
    Rule.circularDependency.violation
      { location := " → ".intercalate (circuitLabels ctx circuit)
        description := "Circular dependency detected in connection path"
        suggestion := "Remove one connection to break the cycle or restructure the design"
        components := some circuit
        details := some
          [("cyclePath", .texts (circuitLabels ctx circuit)),
           ("cycleLength", .int circuit.length)] }

def isolatedComponent (ctx : Context) : List Violation :=
  (ctx.diagram.nodes.filter fun n => !ctx.diagram.isConnected n.id).map fun n =>
    Rule.isolatedComponent.violation
      { location := ctx.label n.id
        description := "Component '" ++ ctx.label n.id ++ "' has no connections"
        suggestion := "Connect to other components or remove if unused"
        components := some [n.id] }

/-- An interconnect with more inputs or more outputs than allowed. -/
def isCrowded (ctx : Context) (n : Node) : Bool :=
  ctx.isInterconnect n &&
    (decide (ctx.settings.maxFanout < ctx.diagram.outDegree n.id) ||
      decide (ctx.settings.maxFanout < ctx.diagram.inDegree n.id))

def interconnectFanout (ctx : Context) : List Violation :=
  (ctx.diagram.nodes.filter (isCrowded ctx)).map fun n =>
    let fanin := ctx.diagram.inDegree n.id
    let fanout := ctx.diagram.outDegree n.id
    Rule.interconnectFanout.violation
      { location := ctx.label n.id
        description := "High fanout/fanin count: " ++ Numeral.ofNat fanin ++ " inputs, " ++
          Numeral.ofNat fanout ++ " outputs"
        suggestion := "Consider splitting into multiple interconnects or using hierarchical design"
        components := some [n.id]
        details := some
          [("fanin", .int fanin), ("fanout", .int fanout), ("limit", .int ctx.settings.maxFanout)] }

def longPath (ctx : Context) (path : List String) : Violation :=
  let labels := path.map ctx.label
  Rule.longPath.violation
    { location := " → ".intercalate labels
      description := "Long connection path detected (" ++ Numeral.ofNat path.length ++ " hops)"
      suggestion :=
        "Consider direct connection or reducing intermediate components for better latency"
      components := some path
      details := some [("pathLength", .int path.length), ("path", .texts labels)] }

def hasMaster (ctx : Context) (id : String) : Bool :=
  (ctx.interfaces id).any (·.direction == .master)

/-- The paths from a component with a master interface that have more nodes than the
threshold. -/
def longPaths (ctx : Context) : List Violation :=
  (ctx.diagram.ids.filter (hasMaster ctx)).flatMap fun id =>
    ((ctx.diagram.terminalPaths id ctx.settings.maxPathDepth).filter fun path =>
      decide (ctx.settings.longPathThreshold < path.length)).map (longPath ctx)

end DesignRules.Checks
