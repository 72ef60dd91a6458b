import DesignRules.Checks.Context

/-! # Ports

A port takes one connection, a slave interface is driven by one master unless its
component arbitrates, and masters and slaves should be connected at all.
-/

namespace DesignRules.Checks

/-- The ports that a connection names, each with the connection. -/
def references (e : Connection) : List ((String × String) × Connection) :=
  ((filled e.sourceHandle).map fun h => ((e.source, h), e)).toList ++
    ((filled e.targetHandle).map fun h => ((e.target, h), e)).toList

/-- The named ports with the connections that name them. -/
def portUses (d : Diagram) : List ((String × String) × List Connection) :=
  (groupBy (·.1) (d.edges.flatMap references)).map fun (port, uses) => (port, uses.map (·.2))

def sharedPort (ctx : Context) (node interface : String) (edges : List Connection) : Violation :=
  let nodeName := ctx.label node
  let name := ctx.resolver.interfaceName node interface
  let count := Numeral.ofNat edges.length
  Rule.portUniqueness.violation
    { location := nodeName ++ "." ++ name
      description := "Port '" ++ name ++ "' on component '" ++ nodeName ++ "' has " ++ count ++
        " connections. Each port can only have one connection."
      suggestion := "Add more ports to '" ++ nodeName ++
        "' or use a different port for each connection. " ++
        "Interconnects should have sufficient ports for all connected components."
      components := some [node]
      interfaces := some [interface]
      connections := some (edgeIds edges)
      details := some
        [("nodeId", .text node), ("nodeName", .text nodeName), ("interfaceId", .text interface),
         ("interfaceName", .text name), ("connectionCount", .int edges.length),
         ("connections", .texts (edgeIds edges))] }

def portUniqueness (ctx : Context) : List Violation :=
  ((portUses ctx.diagram).filter fun (_, edges) => decide (1 < edges.length)).map
    fun ((node, interface), edges) => sharedPort ctx node interface edges

/-- The key of the port that an edge drives; edges without a handle share one key. -/
def drivenPort (e : Connection) : String × String :=
  (e.target, (filled e.targetHandle).getD "default")

def drivenPorts (d : Diagram) : List ((String × String) × List Connection) :=
  groupBy drivenPort (d.edges.filter fun e => d.hasNode e.target)

/-- The distinct sources, each with its first edge. -/
def drivers (edges : List Connection) : List (String × Connection) :=
  (groupBy (·.source) edges).filterMap fun (source, uses) => uses.head?.map fun e => (source, e)

def masterPath (ctx : Context) (driver : String × Connection) : String :=
  ctx.resolver.location driver.1 driver.2.sourceHandle

def masterDetails (ctx : Context) (driver : String × Connection) : Datum := .object
  [("nodeName", .text (ctx.label driver.1)),
   ("interfaceName", .text (match filled driver.2.sourceHandle with
     | some handle => ctx.resolver.interfaceName driver.1 handle
     | none => "unknown")),
   ("fullPath", .text (masterPath ctx driver))]

def contendedPort (ctx : Context) (node port : String) (edges : List Connection) : Violation :=
  let handle := if port = "default" then none else some port
  let masters := drivers edges
  let path := ctx.resolver.location node handle
  let interface := ctx.resolver.find? node handle
  Rule.multipleMasters.violation
    { location := path
      description := Numeral.ofNat masters.length ++
        " masters connected to slave interface without arbitration"
      suggestion := "Add an AXI Crossbar, Arbiter, or Interconnect between masters and " ++
        "this slave interface"
      components := some (node :: masters.map (·.1))
      interfaces := some ((interface.map (·.id)).toList)
      connections := some (edgeIds edges)
      details := some
        [("slave", .object
           [("node", .text (ctx.label node)),
            ("interface", .text ((interface.map (·.name)).getD port)),
            ("fullPath", .text path)]),
         ("masterCount", .int masters.length),
         ("masters", .list (masters.map (masterDetails ctx))),
         ("connections", .texts (masters.map fun m => masterPath ctx m ++ " → " ++ path))] }

/-- Driven by several components although its own is no arbiter. -/
def isContended (ctx : Context) (node : String) (edges : List Connection) : Bool :=
  decide (1 < (drivers edges).length) &&
    (ctx.diagram.node? node).any fun n => !ctx.isArbiter n

def multipleMasters (ctx : Context) : List Violation :=
  ((drivenPorts ctx.diagram).filter fun ((node, _), edges) => isContended ctx node edges).map
    fun ((node, port), edges) => contendedPort ctx node port edges

/-- The port at one end of a connection: the named one, else the one that is found. -/
def touchedPort (node : String) (handle : Option String) (found : Option Interface) :
    Option (String × String) :=
  ((filled handle) <|> (found.map (·.id))).map fun port => (node, port)

def touchedPorts (ctx : Context) (e : Connection) : List (String × String) :=
  let ends := ctx.resolver.resolveEdge e
  (touchedPort e.source e.sourceHandle ends.1).toList ++
    (touchedPort e.target e.targetHandle ends.2).toList

def connectedPorts (ctx : Context) : List (String × String) :=
  ctx.diagram.edges.flatMap (touchedPorts ctx)

def unconnectedPort (ctx : Context) (node : String) (i : Interface) (rule : Rule)
    (description suggestion : String) : Violation :=
  rule.violation
    { location := ctx.resolver.location node (some i.id)
      description := description
      suggestion := suggestion
      components := some [node]
      interfaces := some [i.id]
      details := some
        [("node", .text (ctx.label node)), ("interface", .text i.name),
         ("direction", .text i.direction.name), ("busType", .ofOption i.busType),
         ("optional", .bool i.optional)] }

/-- The violation for an interface that should be connected and is not. -/
def unconnected? (ctx : Context) (node : String) (i : Interface) : Option Violation :=
  match i.direction with
  | .master => some (unconnectedPort ctx node i .unconnectedMaster
      "Master interface is not connected"
      "Connect to a slave interface or mark as optional if intentional")
  | .slave => some (unconnectedPort ctx node i .unconnectedSlave
      "Slave interface is not connected"
      "Connect from a master interface or remove if unused")
  | _ => none

def unconnectedInterfaces (ctx : Context) : List Violation :=
  let connected := connectedPorts ctx
  ctx.diagram.nodes.flatMap fun n => (ctx.interfaces n.id).filterMap fun i =>
    if connected.contains (n.id, i.id) || (i.optional && !ctx.options.checkOptionalPorts) then none
    else unconnected? ctx n.id i

end DesignRules.Checks
