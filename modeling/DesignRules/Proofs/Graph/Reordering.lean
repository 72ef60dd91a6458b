import DesignRules.Proofs.Graph.Agreement
import DesignRules.Proofs.Graph.Loops

/-! # Reordered diagrams

The same nodes and edges in another order, where nodes with a common identifier must not
change places. The circuits may start at other nodes and the paths may be listed in another
order, but there are as many of them.
-/

namespace DesignRules.Diagram

/-- The edges in any order, and the nodes in any order if their identifiers differ. -/
structure Reorders (d d' : Diagram) : Prop where
  edges : d.edges.Perm d'.edges
  nodes : d.nodes.Perm d'.nodes
  fixed : d.nodes = d'.nodes ∨ (d.nodes.map (·.id)).Nodup

variable {d d' : Diagram} {a b id start : String} {depth : ℤ} {c p : List String} {e : Connection}

theorem node?_eq_some_iff (h : (d.nodes.map (·.id)).Nodup) {n : Node} :
    d.node? id = some n ↔ n ∈ d.nodes ∧ n.id = id := by
  constructor
  · intro hn
    exact ⟨List.mem_of_find?_eq_some hn, by simpa using List.find?_some hn⟩
  · rintro ⟨hn, rfl⟩
    exact find?_eq_some_of_nodup h hn

namespace Reorders

theorem symm (h : d.Reorders d') : d'.Reorders d where
  edges := h.edges.symm
  nodes := h.nodes.symm
  fixed := h.fixed.imp Eq.symm fun hn => (h.nodes.map (·.id)).nodup_iff.mp hn

section Same

variable (h : d.Reorders d')

include h

theorem node?_eq (id : String) : d.node? id = d'.node? id := by
  rcases h.fixed with hn | hn
  · rw [node?, hn, ← node?]
  · have hn' : (d'.nodes.map (·.id)).Nodup := (h.nodes.map (·.id)).nodup_iff.mp hn
    refine Option.ext fun n => ?_
    rw [node?_eq_some_iff hn, node?_eq_some_iff hn', h.nodes.mem_iff]

theorem hasNode_eq (id : String) : d.hasNode id = d'.hasNode id := by
  rw [hasNode_eq_isSome, hasNode_eq_isSome, h.node?_eq]

theorem ids_perm : d.ids.Perm d'.ids := eraseDups_perm (h.nodes.map (·.id))

theorem joins_iff : d.Joins a b ↔ d'.Joins a b := by
  simp only [Joins, h.edges.mem_iff, h.hasNode_eq]

theorem outDegree_eq (id : String) : d.outDegree id = d'.outDegree id :=
  (h.edges.filter _).length_eq

theorem inDegree_eq (id : String) : d.inDegree id = d'.inDegree id :=
  (h.edges.filter _).length_eq

/-! ## Circuits -/

theorem enumerates (loops : List (List String)) (hloops : d.Enumerates loops) :
    d'.Enumerates loops := by
  have hloop : ∀ c, d.IsLoop c ↔ d'.IsLoop c := fun _ => isLoop_congr fun _ _ => h.joins_iff
  exact ⟨fun c hc => (hloop c).mp (hloops.isLoop c hc),
    fun c hc => hloops.once c ((hloop c).mpr hc)⟩

/-- Rotated to their new earliest nodes the circuits are the same. -/
theorem length_circuits_eq : d.circuits.length = d'.circuits.length := by
  rw [← (h.enumerates _ enumerates_circuits).arranged_eq, arranged, List.length_mergeSort, List.length_map]

theorem circuits_eq (hnodes : d.nodes = d'.nodes) : d.circuits = d'.circuits := by
  refine circuits_congr ?_ fun _ _ => h.joins_iff
  rw [ids, hnodes, ← ids]

/-! ## Terminal paths -/

theorem edgeCount_eq : d.edgeCount = d'.edgeCount :=
  funext₂ fun _ _ => h.edges.countP_eq _

theorem isTerminalPath_iff : d.IsTerminalPath start depth p ↔ d'.IsTerminalPath start depth p := by
  simp only [Diagram.isTerminalPath_iff, h.hasNode_eq, h.edges.mem_iff]

theorem terminalPaths_perm (start : String) (depth : ℤ) :
    (d.terminalPaths start depth).Perm (d'.terminalPaths start depth) := by
  refine List.perm_iff_count.mpr fun p => ?_
  rw [count_terminalPaths, count_terminalPaths, routes, h.edgeCount_eq, ← routes]
  simp only [h.isTerminalPath_iff]

end Same

end Reorders

end DesignRules.Diagram
