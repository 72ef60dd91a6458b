import DesignRules.Graph.Basic

/-! # Paths

All paths without a repeated node, by depth-first search. Parallel edges give the same
sequence of nodes once for each edge.
-/

namespace DesignRules

/-- The simple paths from a vertex with at most a number of edges that keep off the
vertices in `seen`. -/
def simplePaths {α : Type} [BEq α] (next : α → List α) : Nat → List α → α → List (List α)
  | 0, _, v => [[v]]
  | depth + 1, seen, v =>
    [v] :: ((next v).filter fun w => !(v :: seen).contains w).flatMap fun w =>
      (simplePaths next depth (v :: seen) w).map (v :: ·)

namespace Diagram

variable (d : Diagram)

/-- The successors of a node, each as often as there are edges to it. -/
def parallelSuccessors (id : String) : List String :=
  let targets := d.targets id
  targets.eraseDups.flatMap fun target => targets.filter (· == target)

/-- The nodes other than `start` at which no inner edge starts. -/
def terminals (start : String) : List String :=
  d.ids.filter fun id => id != start && (d.targets id).isEmpty

/-- The simple paths from `start` to a terminal node with at most `depth` edges. -/
def terminalPaths (start : String) (depth : Int) : List (List String) :=
  let terminals := d.terminals start
  if !d.hasNode start || terminals.isEmpty then []
  else (simplePaths d.parallelSuccessors depth.toNat [] start).filter fun path =>
    path.getLast?.any terminals.contains

end Diagram

end DesignRules
