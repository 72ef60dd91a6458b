import DesignRules.Graph.Basic
import DesignRules.Proofs.Distinct

/-! # Nodes and edges

Two nodes are joined if an edge leads from the one to the other and both exist. The
nodes of a graph stand in the order of their positions.
-/

namespace DesignRules

namespace Diagram

variable (d : Diagram)

/-- An edge leads from one existing node to another. -/
def Joins (a b : String) : Prop :=
  ∃ e ∈ d.edges, e.source = a ∧ e.target = b ∧ d.hasNode a ∧ d.hasNode b

/-- The edge starts or ends at the node. -/
def touches (id : String) (e : Connection) : Bool := e.source == id || e.target == id

/-- The position of the first entry of a node. -/
def position (id : String) : ℕ := (d.indexOf? id).getD d.nodes.length

/-- The positions of a sequence of nodes. -/
def positions (ids : List String) : List ℕ := ids.map d.position

variable {d} {a b id : String}

theorem hasNode_iff : d.hasNode id ↔ id ∈ d.nodes.map (·.id) := by
  simp [hasNode]

theorem hasNode_of_node? {n : Node} (h : d.node? id = some n) : d.hasNode id := by
  obtain ⟨hid, before, after, hnodes, -⟩ := List.find?_eq_some_iff_append.mp h
  exact List.any_eq_true.mpr ⟨n, by simp [hnodes], hid⟩

theorem hasNode_eq_isSome (d : Diagram) (id : String) : d.hasNode id = (d.node? id).isSome :=
  List.isSome_find?.symm

theorem touches_iff {e : Connection} : touches id e ↔ e.source = id ∨ e.target = id := by
  rw [touches, Bool.or_eq_true, beq_iff_eq, beq_iff_eq]

theorem mem_ids_iff : id ∈ d.ids ↔ d.hasNode id := by
  rw [hasNode_iff, ids, List.mem_eraseDups]

theorem hasEdge_iff : d.hasEdge a b ↔ d.Joins a b := by
  simp only [hasEdge, innerEdges, isInner, Joins, List.any_filter, List.any_eq_true,
    Bool.and_eq_true, beq_iff_eq]
  grind

theorem Joins.source_mem (h : d.Joins a b) : a ∈ d.ids := by
  obtain ⟨_, _, _, _, ha, _⟩ := h
  exact mem_ids_iff.mpr ha

theorem Joins.target_mem (h : d.Joins a b) : b ∈ d.ids := by
  obtain ⟨_, _, _, _, _, hb⟩ := h
  exact mem_ids_iff.mpr hb

theorem position_eq_idxOf (id : String) : d.position id = (d.nodes.map (·.id)).idxOf id := by
  rw [List.idxOf, List.findIdx_map, List.findIdx_eq_getD_findIdx?]
  rfl

theorem pairwise_position_ids : d.ids.Pairwise fun a b => d.position a < d.position b := by
  simpa only [ids, position_eq_idxOf] using pairwise_idxOf_eraseDups (d.nodes.map (·.id))

theorem nodup_ids : d.ids.Nodup :=
  pairwise_position_ids.imp fun h he => by simp [he] at h

theorem position_inj (ha : a ∈ d.ids) (h : d.position a = d.position b) : a = b := by
  rw [position_eq_idxOf, position_eq_idxOf] at h
  exact (List.idxOf_inj (hasNode_iff.mp (mem_ids_iff.mp ha))).mp h

theorem positions_inj {p q : List String} (hp : p ⊆ d.ids) (h : d.positions p = d.positions q) :
    p = q := by
  induction p generalizing q with
  | nil => exact (List.map_eq_nil_iff.mp h.symm).symm
  | cons a p ih =>
    cases q with
    | nil => exact List.map_eq_nil_iff.mp h
    | cons b q =>
      obtain ⟨hab, hpq⟩ := List.cons.inj h
      obtain ⟨ha, hp⟩ := List.cons_subset.mp hp
      rw [position_inj ha hab, ih hp hpq]

end Diagram

end DesignRules
