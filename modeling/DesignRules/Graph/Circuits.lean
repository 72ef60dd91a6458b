import DesignRules.Graph.Paths

/-! # Circuits

Every directed circuit once, from its earliest node on, in the order of the positions of
its nodes. A circuit from a root runs through later nodes that lead back to the root.
-/

namespace DesignRules.Diagram

variable (d : Diagram)

def later (root : String) : List String := (d.ids.dropWhile (· != root)).drop 1

/-- Adds the nodes with an edge into the set. -/
def widened (among found : List String) : List String :=
  among.filter fun id => found.contains id || found.any (d.hasEdge id)

def widen (among : List String) : Nat → List String → List String
  | 0, found => found
  | n + 1, found => widen among n (d.widened among found)

/-- The nodes after the root from which the root can be reached without an earlier
node. -/
def returning (root : String) : List String :=
  let among := d.later root
  d.widen among among.length (among.filter (d.hasEdge · root))

def circuitsFrom (root : String) : List (List String) :=
  let among := d.returning root
  let next := fun id => among.filter (d.hasEdge id)
  (simplePaths next d.ids.length [] root).filter fun path =>
    path.getLast?.any (d.hasEdge · root)

def circuits : List (List String) := d.ids.flatMap d.circuitsFrom

end DesignRules.Diagram
