import DesignRules.Proofs.Graph.Circuits
import DesignRules.Proofs.Graph.TerminalPaths

/-! # Diagrams with the same graph

The circuits follow from the nodes that are joined and from the order of the nodes. The
terminal paths from a node follow from the edges of the nodes that it leads to.
-/

namespace DesignRules

theorem forall_mem_simplePaths {α : Type} [BEq α] {next : α → List α} {S : Set α}
    (hclosed : ∀ a ∈ S, ∀ b ∈ next a, b ∈ S) {n : ℕ} {seen p : List α} {v : α} (hv : v ∈ S)
    (hp : p ∈ simplePaths next n seen v) : ∀ a ∈ p, a ∈ S := by
  induction n generalizing seen p v with
  | zero => simp_all [simplePaths]
  | succ n ih =>
    rw [simplePaths, List.mem_cons, List.mem_flatMap] at hp
    rcases hp with rfl | ⟨w, hw, hp⟩
    · simpa using hv
    · obtain ⟨q, hq, rfl⟩ := List.mem_map.mp hp
      have hwS := hclosed v hv w (List.mem_of_mem_filter hw)
      exact List.forall_mem_cons.mpr ⟨hv, ih hwS hq⟩

/-- Searches whose steps agree on a closed set of vertices find the same paths there. -/
theorem simplePaths_congr {α : Type} [BEq α] {next next' : α → List α} {S : Set α}
    (hstep : ∀ a ∈ S, next a = next' a) (hclosed : ∀ a ∈ S, ∀ b ∈ next a, b ∈ S) {n : ℕ}
    {seen : List α} {v : α} (hv : v ∈ S) :
    simplePaths next n seen v = simplePaths next' n seen v := by
  induction n generalizing seen v with
  | zero => rfl
  | succ n ih =>
    rw [simplePaths, simplePaths, ← hstep v hv]
    refine congrArg ([v] :: ·) (List.flatMap_congr fun w hw => ?_)
    rw [ih (hclosed v hv w (List.mem_of_mem_filter hw))]

namespace Diagram

variable {d d' : Diagram} {S : Set String} {start : String} {depth : ℤ}

/-- The circuits are the only increasing list of all circuits. -/
theorem eq_circuits {l : List (List String)} (hmem : ∀ c, c ∈ l ↔ d.IsCircuit c)
    (hsorted : l.Pairwise fun a b => d.positions a < d.positions b) : l = d.circuits := by
  have : Std.Irrefl fun a b : List String => d.positions a < d.positions b :=
    ⟨fun _ => lt_irrefl _⟩
  have : Std.Antisymm fun a b : List String => d.positions a < d.positions b :=
    ⟨fun _ _ hab hba => absurd (hab.trans hba) (lt_irrefl _)⟩
  exact hsorted.eq_of_mem_iff pairwise_circuits fun c => (hmem c).trans mem_circuits_iff.symm

theorem isLoop_congr (h : ∀ a b, d.Joins a b ↔ d'.Joins a b) {c : List String} :
    d.IsLoop c ↔ d'.IsLoop c := by
  have hjoins : d.Joins = d'.Joins := funext₂ fun a b => propext (h a b)
  constructor
  · rintro ⟨hne, hn, hc⟩
    exact ⟨hne, hn, hjoins ▸ hc⟩
  · rintro ⟨hne, hn, hc⟩
    exact ⟨hne, hn, hjoins ▸ hc⟩

theorem widen_congr (h : d.hasEdge = d'.hasEdge) {among found : List String} {n : ℕ} :
    d.widen among n found = d'.widen among n found := by
  induction n generalizing found with
  | zero => rfl
  | succ n ih => rw [widen, widen, widened, h, ← widened, ih]

/-- The circuits follow from the nodes in their order and from which of them are joined. -/
theorem circuits_congr (hids : d.ids = d'.ids) (hjoins : ∀ a b, d.Joins a b ↔ d'.Joins a b) :
    d.circuits = d'.circuits := by
  have hedge : d.hasEdge = d'.hasEdge :=
    funext₂ fun a b => by rw [Bool.eq_iff_iff, hasEdge_iff, hasEdge_iff, hjoins]
  have hreturning : d.returning = d'.returning := by
    funext root
    rw [returning, returning, widen_congr hedge, later, hids, hedge, ← later]
  have hcircuits : d.circuitsFrom = d'.circuitsFrom := by
    funext root
    rw [circuitsFrom, hreturning, hids, hedge, ← circuitsFrom]
  rw [circuits, hids, hcircuits, ← circuits]

/-- Diagrams that agree on the nodes of a set and on their targets, which lie in the set. -/
structure AgreeOn (d d' : Diagram) (S : Set String) : Prop where
  hasNode : ∀ id ∈ S, d.hasNode id = d'.hasNode id
  targets : ∀ id ∈ S, d.targets id = d'.targets id
  closed : ∀ id ∈ S, ∀ target ∈ d.targets id, target ∈ S

theorem AgreeOn.mem_terminals_iff (h : d.AgreeOn d' S) {id : String} (hid : id ∈ S) :
    id ∈ d.terminals start ↔ id ∈ d'.terminals start := by
  simp only [terminals, List.mem_filter, mem_ids_iff, h.hasNode id hid, h.targets id hid]

theorem AgreeOn.terminalPaths_eq (h : d.AgreeOn d' S) (hstart : start ∈ S) :
    d.terminalPaths start depth = d'.terminalPaths start depth := by
  by_cases hnode : d.hasNode start
  case neg =>
    rw [terminalPaths_eq_nil hnode, terminalPaths_eq_nil (h.hasNode start hstart ▸ hnode)]
  have hclosed : ∀ a ∈ S, ∀ b ∈ d.parallelSuccessors a, b ∈ S := by
    intro a ha b hb
    exact h.closed a ha b (mem_targets_iff.mpr (mem_parallelSuccessors_iff.mp hb))
  have hstep : ∀ a ∈ S, d.parallelSuccessors a = d'.parallelSuccessors a := by
    intro a ha
    rw [parallelSuccessors, h.targets a ha, ← parallelSuccessors]
  rw [Diagram.terminalPaths_eq hnode, Diagram.terminalPaths_eq (h.hasNode start hstart ▸ hnode),
    ← simplePaths_congr hstep hclosed hstart]
  refine List.filter_congr fun p hp => ?_
  have hlast : ∀ last ∈ p.getLast?, last ∈ S := fun last hl =>
    forall_mem_simplePaths hclosed hstart hp last (List.mem_of_getLast? hl)
  rw [Bool.eq_iff_iff, endsIn_iff, endsIn_iff]
  exact exists_congr fun last => and_congr_right fun hl => h.mem_terminals_iff (hlast last hl)

end Diagram

end DesignRules
