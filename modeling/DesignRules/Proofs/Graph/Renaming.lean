import DesignRules.Proofs.Graph.Union
import Mathlib.Logic.Equiv.Fintype

/-! # Renamed diagrams

New identifiers for the nodes, different ones for different nodes. Nothing in the graph goes
by what an identifier is, so circuits and paths are those of the diagram under the new names
and stand in the same order.
-/

namespace DesignRules

theorem contains_map {α β : Type} [BEq α] [LawfulBEq α] [BEq β] [LawfulBEq β] {f : α → β}
    (hf : Function.Injective f) (l : List α) (a : α) : (l.map f).contains (f a) = l.contains a := by
  rw [Bool.eq_iff_iff, List.contains_iff_mem, List.contains_iff_mem, List.mem_map_of_injective hf]

/-- The paths found do not depend on what the vertices are. -/
theorem simplePaths_map {α β : Type} [BEq α] [LawfulBEq α] [BEq β] [LawfulBEq β] {f : α → β}
    (hf : Function.Injective f) (next : α → List α) (next' : β → List β)
    (hnext : ∀ a, next' (f a) = (next a).map f) (depth : ℕ) (seen : List α) (v : α) :
    simplePaths next' depth (seen.map f) (f v) =
      (simplePaths next depth seen v).map (List.map f) := by
  induction depth generalizing seen v with
  | zero => rfl
  | succ depth ih =>
    have hseen : ∀ w, (f v :: seen.map f).contains (f w) = (v :: seen).contains w :=
      contains_map hf (v :: seen)
    rw [simplePaths, simplePaths, hnext, List.map_cons, List.filter_map, List.flatMap_map,
      List.map_flatMap]
    simp only [Function.comp_def, hseen]
    refine congrArg _ (List.flatMap_congr fun w _ => ?_)
    rw [← List.map_cons, ih, List.map_map, List.map_map]
    rfl

def Node.renamed (r : String → String) (n : Node) : Node := { n with id := r n.id }

def Connection.renamed (r : String → String) (e : Connection) : Connection :=
  { e with source := r e.source, target := r e.target }

namespace Diagram

/-- The diagram with other identifiers for the nodes. -/
def renamed (r : String → String) (d : Diagram) : Diagram :=
  ⟨d.nodes.map (Node.renamed r), d.edges.map (Connection.renamed r)⟩

variable {d : Diagram} {r r' : String → String}

/-- Only the names of the identifiers in use matter. -/
theorem renamed_congr (h : ∀ id ∈ d.names, r id = r' id) : d.renamed r = d.renamed r' := by
  refine congrArg₂ Diagram.mk (List.map_congr_left fun n hn => ?_)
    (List.map_congr_left fun e he => ?_)
  · rw [Node.renamed, h _ (mem_names_of_mem_nodes hn), ← Node.renamed]
  · rw [Connection.renamed, h _ (source_mem_names he), h _ (target_mem_names he),
      ← Connection.renamed]

theorem renamed_id (d : Diagram) : d.renamed id = d := by
  rw [renamed]
  exact congrArg₂ Diagram.mk (List.map_id _) (List.map_id _)

theorem renamed_eq_self (h : ∀ id ∈ d.names, r id = id) : d.renamed r = d :=
  (renamed_congr h).trans d.renamed_id

/-- New names for the identifiers in use can be completed to a permutation of all. -/
theorem exists_perm_of_injOn (h : Set.InjOn r {id | id ∈ d.names}) :
    ∃ σ : Equiv.Perm String, ∀ id ∈ d.names, σ id = r id := by
  obtain ⟨σ, hσ⟩ := Equiv.Perm.exists_extending_pair
    (fun id : {id // id ∈ d.names} => id.1) (fun id => r id.1)
    Subtype.val_injective fun a b hab => Subtype.ext (h a.2 b.2 hab)
  exact ⟨σ, fun id hid => hσ ⟨id, hid⟩⟩

variable (hr : Function.Injective r)

include hr

/-! ## Nodes and edges -/

theorem node?_renamed (id : String) :
    (d.renamed r).node? (r id) = (d.node? id).map (Node.renamed r) := by
  rw [node?, renamed, List.find?_map, node?]
  simp only [Function.comp_def, Node.renamed, hr.beq_eq]

theorem hasNode_renamed (id : String) : (d.renamed r).hasNode (r id) = d.hasNode id := by
  rw [hasNode_eq_isSome, hasNode_eq_isSome, node?_renamed hr, Option.isSome_map]

theorem ids_renamed (d : Diagram) : (d.renamed r).ids = d.ids.map r := by
  rw [ids, ids, ← eraseDups_map hr, renamed, List.map_map, List.map_map]
  rfl

theorem innerEdges_renamed (d : Diagram) :
    (d.renamed r).innerEdges = d.innerEdges.map (Connection.renamed r) := by
  have hinner : ∀ e, (d.renamed r).isInner (e.renamed r) = d.isInner e := fun e =>
    congrArg₂ (· && ·) (hasNode_renamed hr e.source) (hasNode_renamed hr e.target)
  change (d.edges.map (Connection.renamed r)).filter _ = _
  rw [List.filter_map]
  simp only [Function.comp_def, hinner]
  rfl

theorem targets_renamed (id : String) :
    (d.renamed r).targets (r id) = (d.targets id).map r := by
  rw [targets, innerEdges_renamed hr, List.filter_map, List.map_map, targets, List.map_map]
  simp only [Function.comp_def, Connection.renamed, hr.beq_eq]

theorem hasEdge_renamed (a b : String) : (d.renamed r).hasEdge (r a) (r b) = d.hasEdge a b := by
  rw [hasEdge, innerEdges_renamed hr, List.any_map, hasEdge]
  simp only [Function.comp_def, Connection.renamed, hr.beq_eq]

theorem outDegree_renamed (id : String) : (d.renamed r).outDegree (r id) = d.outDegree id := by
  rw [outDegree, renamed, List.filter_map, List.length_map, outDegree]
  simp only [Function.comp_def, Connection.renamed, hr.beq_eq]

theorem inDegree_renamed (id : String) : (d.renamed r).inDegree (r id) = d.inDegree id := by
  rw [inDegree, renamed, List.filter_map, List.length_map, inDegree]
  simp only [Function.comp_def, Connection.renamed, hr.beq_eq]

theorem isConnected_renamed (id : String) :
    (d.renamed r).isConnected (r id) = d.isConnected id := by
  rw [isConnected, outDegree_renamed hr, inDegree_renamed hr, ← isConnected]

/-! ## Circuits -/

theorem later_renamed (root : String) : (d.renamed r).later (r root) = (d.later root).map r := by
  have hroot : (fun id => id != r root) ∘ r = fun id => id != root :=
    funext fun id => congrArg (!·) (hr.beq_eq)
  rw [later, ids_renamed hr, List.dropWhile_map, hroot, ← List.map_drop, ← later]

theorem widened_renamed (among found : List String) :
    (d.renamed r).widened (among.map r) (found.map r) = (d.widened among found).map r := by
  rw [widened, List.filter_map, widened]
  simp only [Function.comp_def, contains_map hr, List.any_map, hasEdge_renamed hr]

theorem widen_renamed (among : List String) (n : ℕ) (found : List String) :
    (d.renamed r).widen (among.map r) n (found.map r) = (d.widen among n found).map r := by
  induction n generalizing found with
  | zero => rfl
  | succ n ih => rw [widen, widened_renamed hr, ih, ← widen]

theorem filter_hasEdge_renamed (among : List String) (id : String) :
    (among.map r).filter ((d.renamed r).hasEdge (r id)) =
      (among.filter (d.hasEdge id)).map r := by
  rw [List.filter_map]
  simp only [Function.comp_def, hasEdge_renamed hr]

theorem returning_renamed (root : String) :
    (d.renamed r).returning (r root) = (d.returning root).map r := by
  have hlast : ∀ among : List String, (among.map r).filter ((d.renamed r).hasEdge · (r root)) =
      (among.filter (d.hasEdge · root)).map r := by
    intro among
    rw [List.filter_map]
    simp only [Function.comp_def, hasEdge_renamed hr]
  rw [returning, later_renamed hr, hlast, List.length_map, widen_renamed hr, ← returning]

theorem circuitsFrom_renamed (root : String) :
    (d.renamed r).circuitsFrom (r root) = (d.circuitsFrom root).map (List.map r) := by
  have hpaths := simplePaths_map hr (fun id => (d.returning root).filter (d.hasEdge id))
    (fun id => ((d.returning root).map r).filter ((d.renamed r).hasEdge id))
    (filter_hasEdge_renamed hr _) d.ids.length [] root
  rw [List.map_nil] at hpaths
  rw [circuitsFrom, returning_renamed hr, ids_renamed hr, List.length_map, hpaths,
    List.filter_map, circuitsFrom]
  simp only [Function.comp_def, List.getLast?_map, Option.any_map, hasEdge_renamed hr]

theorem circuits_renamed (d : Diagram) :
    (d.renamed r).circuits = d.circuits.map (List.map r) := by
  rw [circuits, ids_renamed hr, List.flatMap_map, circuits, List.map_flatMap]
  simp only [circuitsFrom_renamed hr]

/-! ## Paths -/

theorem parallelSuccessors_renamed (id : String) :
    (d.renamed r).parallelSuccessors (r id) = (d.parallelSuccessors id).map r := by
  rw [parallelSuccessors, targets_renamed hr, eraseDups_map hr, List.flatMap_map,
    parallelSuccessors, List.map_flatMap]
  simp only [List.filter_map, Function.comp_def, hr.beq_eq]

theorem terminals_renamed (start : String) :
    (d.renamed r).terminals (r start) = (d.terminals start).map r := by
  have hother : ∀ id, (r id != r start) = (id != start) := fun id => congrArg (!·) hr.beq_eq
  rw [terminals, ids_renamed hr, List.filter_map, terminals]
  simp only [Function.comp_def, hother, targets_renamed hr, List.isEmpty_map]

theorem terminalPaths_renamed (start : String) (depth : ℤ) :
    (d.renamed r).terminalPaths (r start) depth =
      (d.terminalPaths start depth).map (List.map r) := by
  have hpaths := simplePaths_map hr d.parallelSuccessors (d.renamed r).parallelSuccessors
    (parallelSuccessors_renamed hr) depth.toNat [] start
  rw [List.map_nil] at hpaths
  rw [terminalPaths, terminals_renamed hr, hasNode_renamed hr, List.isEmpty_map, hpaths,
    terminalPaths]
  split
  · rfl
  · rw [List.filter_map]
    simp only [Function.comp_def, List.getLast?_map, Option.any_map, contains_map hr]

end Diagram

end DesignRules
