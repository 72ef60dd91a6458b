import DesignRules.Diagram.Basic

/-! # The connection graph

The nodes of a diagram, each identifier standing for its first entry, and its edges as a
directed multigraph. Degrees count every edge; walks follow only the inner edges, whose
two endpoints exist.
-/

namespace DesignRules.Diagram

variable (d : Diagram)

/-- The first entry with an identifier. -/
def node? (id : String) : Option Node := d.nodes.find? (·.id == id)

def hasNode (id : String) : Bool := d.nodes.any (·.id == id)

/-- The position of the first entry with an identifier. -/
def indexOf? (id : String) : Option Nat := d.nodes.findIdx? (·.id == id)

/-- The identifiers in the order of their first entries. -/
def ids : List String := (d.nodes.map (·.id)).eraseDups

def isInner (e : Connection) : Bool := d.hasNode e.source && d.hasNode e.target

def innerEdges : List Connection := d.edges.filter d.isInner

/-- The targets of the inner edges from a node, one for each edge. -/
def targets (id : String) : List String :=
  (d.innerEdges.filter (·.source == id)).map (·.target)

/-- The targets without repetition, in the order of the first edge to each. -/
def successors (id : String) : List String := (d.targets id).eraseDups

def hasEdge (source target : String) : Bool :=
  d.innerEdges.any fun e => e.source == source && e.target == target

def outDegree (id : String) : Nat := (d.edges.filter (·.source == id)).length

def inDegree (id : String) : Nat := (d.edges.filter (·.target == id)).length

def isConnected (id : String) : Bool := d.outDegree id != 0 || d.inDegree id != 0

def isolates : List String := d.ids.filter fun id => !d.isConnected id

/-- The label of a node, or its identifier where it has none. -/
def label (id : String) : String :=
  match d.node? id with
  | some n => if n.label = "" then id else n.label
  | none => id

end DesignRules.Diagram
