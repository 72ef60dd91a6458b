import DesignRules.Proofs.Graph.Loops
import Mathlib.Data.Set.Card

/-! # Reachability and ranks

A circuit runs through a node exactly if a walk leads from the node back to it. Where no walk
does so the nodes can be ranked along the edges, each by the number of nodes that lead to it.
-/

namespace DesignRules.Diagram

variable (d : Diagram)

/-- Every edge between existing nodes leads to a larger rank. -/
def Ranks (rank : String → ℤ) : Prop :=
  ∀ e ∈ d.edges, d.hasNode e.source → d.hasNode e.target → rank e.source < rank e.target

/-- The nodes from which a walk leads to a node. -/
def ancestors (id : String) : Set String := {a | Relation.TransGen d.Joins a id}

variable {d} {a b id : String} {c : List String} {rank : String → ℤ}

/-! ## Circuits through a node -/

theorem IsLoop.transGen_of_mem (h : d.IsLoop c) (hid : id ∈ c) :
    Relation.TransGen d.Joins id id := by
  obtain ⟨before, after, rfl⟩ := List.append_of_mem hid
  have hloop := h.rotate before.length
  rw [List.rotate_append_length_eq, List.cons_append] at hloop
  exact hloop.transGen

/-- Closed walks may repeat nodes and edges, but each holds a circuit through its start. -/
theorem exists_mem_circuits_iff :
    (∃ c ∈ d.circuits, id ∈ c) ↔ Relation.TransGen d.Joins id id := by
  constructor
  · rintro ⟨c, hc, hid⟩
    exact (mem_circuits_iff.mp hc).toIsLoop.transGen_of_mem hid
  · intro h
    obtain ⟨l, hl⟩ := exists_isLoop_cons h
    refine ⟨_, mem_circuits_iff.mpr hl.isCircuit_fromEarliest, ?_⟩
    rw [fromEarliest, List.mem_rotate]
    exact List.mem_cons_self

/-! ## Ranks -/

theorem Ranks.lt_of_joins (h : d.Ranks rank) (hab : d.Joins a b) : rank a < rank b := by
  obtain ⟨e, he, rfl, rfl, ha, hb⟩ := hab
  exact h e he ha hb

theorem Ranks.lt_of_transGen (h : d.Ranks rank) (hab : Relation.TransGen d.Joins a b) :
    rank a < rank b := by
  induction hab with
  | single hj => exact h.lt_of_joins hj
  | tail _ hj ih => exact ih.trans (h.lt_of_joins hj)

theorem ancestors_finite (d : Diagram) (id : String) : (d.ancestors id).Finite := by
  refine d.ids.finite_toSet.subset fun a ha => ?_
  obtain ⟨b, hab, -⟩ := Relation.TransGen.head'_iff.mp ha
  exact hab.source_mem

/-- Where no walk is closed, a node leads to whatever an edge from it leads to, but not to
itself. -/
theorem ncard_ancestors_lt (hopen : ∀ id, ¬ Relation.TransGen d.Joins id id)
    (hab : d.Joins a b) : (d.ancestors a).ncard < (d.ancestors b).ncard := by
  refine Set.ncard_lt_ncard ?_ (d.ancestors_finite b)
  refine (Set.ssubset_iff_of_subset ?_).mpr ⟨a, .single hab, hopen a⟩
  intro x hx
  exact .tail hx hab

theorem ranks_ncard_ancestors (hopen : ∀ id, ¬ Relation.TransGen d.Joins id id) :
    d.Ranks fun id => (d.ancestors id).ncard := by
  intro e he hs ht
  have hlt := ncard_ancestors_lt hopen ⟨e, he, rfl, rfl, hs, ht⟩
  exact Int.ofNat_lt.mpr hlt

theorem exists_ranks_iff :
    (∃ rank, d.Ranks rank) ↔ ∀ id, ¬ Relation.TransGen d.Joins id id := by
  constructor
  · rintro ⟨rank, h⟩ id hid
    exact lt_irrefl _ (h.lt_of_transGen hid)
  · intro hopen
    exact ⟨_, ranks_ncard_ancestors hopen⟩

end DesignRules.Diagram
