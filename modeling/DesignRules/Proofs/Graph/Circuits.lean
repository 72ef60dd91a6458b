import DesignRules.Graph.Circuits
import DesignRules.Proofs.Graph.Basic
import DesignRules.Proofs.Graph.SimplePaths
import Mathlib.Data.List.Rotate
import Mathlib.Data.List.Sort

/-! # Enumerating circuits

The search from each root finds exactly the circuits whose earliest node is the root, in
lexicographic order of positions. Nodes from which the root cannot be reached again may
be left out, because no circuit runs through them.
-/

namespace DesignRules.Diagram

variable (d : Diagram)

/-- A directed circuit through distinct nodes, written from any of them on. -/
structure IsLoop (c : List String) : Prop where
  ne_nil : c ≠ []
  nodup : c.Nodup
  closed : (c ++ c.take 1).IsChain d.Joins

/-- A directed circuit, written from its earliest node on. -/
structure IsCircuit (c : List String) : Prop extends d.IsLoop c where
  earliest : ∀ root ∈ c.head?, ∀ id ∈ c, d.position root ≤ d.position id

variable {d} {root id : String} {among found c rest : List String} {n : ℕ}

theorem isLoop_cons_iff : d.IsLoop (root :: rest) ↔
    (root :: rest).Nodup ∧ (root :: rest ++ [root]).IsChain d.Joins := by
  constructor
  · intro h
    exact ⟨h.nodup, by simpa using h.closed⟩
  · rintro ⟨hn, hc⟩
    exact ⟨List.cons_ne_nil _ _, hn, by simpa using hc⟩

theorem IsLoop.subset_ids (h : d.IsLoop c) : c ⊆ d.ids := by
  intro id hid
  obtain ⟨l, r, rfl⟩ := List.append_of_mem hid
  have hc := h.closed
  rw [List.append_assoc, List.cons_append] at hc
  cases hr : r ++ (l ++ id :: r).take 1 with
  | nil => cases l <;> simp at hr
  | cons w r' =>
    rw [hr, List.isChain_append_cons_cons] at hc
    exact hc.2.1.source_mem

/-! ## Nodes that lead back to the root -/

theorem later_eq_of_ids_eq {before after : List String} (h : d.ids = before ++ root :: after) :
    d.later root = after := by
  have hn := h ▸ d.nodup_ids
  have hb : root ∉ before := by
    intro hr
    exact (List.nodup_append.mp hn).2.2 root hr root List.mem_cons_self rfl
  rw [later, h, List.dropWhile_append_of_pos]
  · simp
  · intro id hid
    simpa using fun he : id = root => hb (he ▸ hid)

theorem mem_later_iff (hr : root ∈ d.ids) :
    id ∈ d.later root ↔ id ∈ d.ids ∧ d.position root < d.position id := by
  obtain ⟨before, after, h⟩ := List.append_of_mem hr
  have hp := h ▸ d.pairwise_position_ids
  obtain ⟨_, hafter, hbefore⟩ := List.pairwise_append.mp hp
  rw [later_eq_of_ids_eq h, h, List.mem_append, List.mem_cons]
  constructor
  · intro hid
    exact ⟨.inr (.inr hid), (List.pairwise_cons.mp hafter).1 id hid⟩
  · rintro ⟨hid | rfl | hid, hlt⟩
    · have := hbefore id hid root List.mem_cons_self
      omega
    · omega
    · exact hid

theorem later_sublist (root : String) : (d.later root).Sublist d.ids :=
  (List.drop_sublist 1 _).trans (List.dropWhile_sublist _)

theorem subset_widened (h : found ⊆ among) : found ⊆ d.widened among found := by
  intro id hid
  simp [widened, h hid, hid]

theorem widen_sublist (h : found.Sublist among) : (d.widen among n found).Sublist among := by
  induction n generalizing found with
  | zero => exact h
  | succ n ih => exact ih List.filter_sublist

theorem subset_widen (h : found ⊆ among) : found ⊆ d.widen among n found := by
  induction n generalizing found with
  | zero => exact List.Subset.refl found
  | succ n ih => exact List.Subset.trans (subset_widened h) (ih List.filter_sublist.subset)

theorem widen_succ : d.widen among (n + 1) found = d.widened among (d.widen among n found) := by
  induction n generalizing found with
  | zero => rfl
  | succ n ih => exact ih

/-- Nodes that reach the set in at most `n` steps are taken in. -/
theorem mem_widen_of_isChain (hf : found ⊆ among) (ha : id :: rest ⊆ among)
    (hc : (id :: rest).IsChain d.Joins) (hl : (id :: rest).getLast (by simp) ∈ found)
    (hn : rest.length ≤ n) : id ∈ d.widen among n found := by
  induction rest generalizing id n with
  | nil => exact subset_widen hf (by simpa using hl)
  | cons w rest ih =>
    obtain ⟨n, rfl⟩ : ∃ m, n = m + 1 := ⟨n - 1, by simp at hn; omega⟩
    obtain ⟨hj, hc⟩ := List.isChain_cons_cons.mp hc
    have hw := ih (fun x hx => ha (List.mem_cons_of_mem id hx)) hc (by simpa using hl)
      (by simpa using hn)
    rw [widen_succ, widened, List.mem_filter, Bool.or_eq_true, List.any_eq_true]
    exact ⟨ha List.mem_cons_self, .inr ⟨w, hw, hasEdge_iff.mpr hj⟩⟩

theorem returning_sublist (root : String) : (d.returning root).Sublist (d.later root) :=
  widen_sublist List.filter_sublist

theorem mem_returning (hr : rest ⊆ d.later root) (h : d.IsLoop (root :: rest)) (hid : id ∈ rest) :
    id ∈ d.returning root := by
  obtain ⟨hn, hc⟩ := isLoop_cons_iff.mp h
  obtain ⟨before, after, rfl⟩ := List.append_of_mem hid
  have hsub : id :: after ⊆ d.later root := fun x hx => hr (List.mem_append_right before hx)
  rw [← List.cons_append, List.append_assoc] at hc
  obtain ⟨hc, _, hlast⟩ := List.isChain_append.mp (List.isChain_append.mp hc).2.1
  have hj : d.Joins ((id :: after).getLast (by simp)) root :=
    hlast _ (by simp [List.getLast?_eq_some_getLast]) root rfl
  refine mem_widen_of_isChain List.filter_sublist.subset hsub hc ?_ ?_
  · exact List.mem_filter.mpr ⟨hsub (List.getLast_mem _), hasEdge_iff.mpr hj⟩
  · have hn : (id :: after).Nodup := (List.nodup_append.mp (List.nodup_cons.mp hn).2).2.1
    have := (List.subperm_of_subset hn hsub).length_le
    simp only [List.length_cons] at this
    omega

/-! ## The circuits of a root -/

theorem cons_mem_circuitsFrom_iff (hr : root ∈ d.ids) :
    root :: rest ∈ d.circuitsFrom root ↔ d.IsCircuit (root :: rest) := by
  have hlast : (root :: rest).getLast?.any (d.hasEdge · root) ↔
      ∀ x ∈ (root :: rest).getLast?, d.Joins x root := by
    simp [List.getLast?_cons, hasEdge_iff]
  rw [circuitsFrom, List.mem_filter, cons_mem_simplePaths_iff, hlast]
  constructor
  · rintro ⟨⟨⟨_, hn, hroot⟩, hc⟩, hl⟩
    have hlater : ∀ id ∈ rest, id ∈ d.later root := forall_mem_of_isChain_cons hc fun a b h =>
      (returning_sublist root).subset (List.mem_filter.mp h).1
    have hj : (root :: rest).IsChain d.Joins := hc.imp fun a b h =>
      hasEdge_iff.mp (List.mem_filter.mp h).2
    have hnotMem : root ∉ rest := fun h => hroot root h List.mem_cons_self
    refine ⟨isLoop_cons_iff.mpr ⟨List.nodup_cons.mpr ⟨hnotMem, hn⟩, ?_⟩, ?_⟩
    · exact List.isChain_append.mpr ⟨hj, List.isChain_singleton _, by simpa using hl⟩
    · simp only [List.head?_cons, Option.mem_some_iff, forall_eq', List.forall_mem_cons, le_refl,
        true_and]
      exact fun id hid => ((mem_later_iff hr).mp (hlater id hid)).2.le
  · intro h
    obtain ⟨hn, hc⟩ := isLoop_cons_iff.mp h.toIsLoop
    obtain ⟨hc, _, hl⟩ := List.isChain_append.mp hc
    have hsub := h.toIsLoop.subset_ids
    have hlater : rest ⊆ d.later root := by
      intro id hid
      have hmem := List.mem_cons_of_mem root hid
      refine (mem_later_iff hr).mpr ⟨hsub hmem, lt_of_le_of_ne (h.earliest root rfl id hmem) ?_⟩
      intro he
      exact (List.nodup_cons.mp hn).1 (position_inj hr he ▸ hid)
    have hlen := (List.subperm_of_subset hn hsub).length_le
    refine ⟨⟨⟨?_, (List.nodup_cons.mp hn).2, ?_⟩, ?_⟩, by simpa using hl⟩
    · simp only [List.length_cons] at hlen
      omega
    · intro w hw hmem
      obtain rfl : w = root := by simpa using hmem
      exact (List.nodup_cons.mp hn).1 hw
    · refine hc.imp_of_mem_tail_imp fun a b _ hb hj => List.mem_filter.mpr ⟨?_, hasEdge_iff.mpr hj⟩
      exact mem_returning hlater h.toIsLoop hb

theorem exists_eq_cons_of_mem_circuitsFrom (h : c ∈ d.circuitsFrom root) :
    ∃ rest, c = root :: rest :=
  List.head?_eq_some_iff.mp (head?_of_mem_simplePaths (List.mem_filter.mp h).1)

theorem pairwise_circuitsFrom (root : String) :
    (d.circuitsFrom root).Pairwise fun a b => d.positions a < d.positions b := by
  refine (pairwise_simplePaths (f := d.position) (fun a => ?_) _ _ _).filter _
  exact (d.pairwise_position_ids.sublist
    ((returning_sublist root).trans (later_sublist root))).filter _

theorem mem_circuits_iff : c ∈ d.circuits ↔ d.IsCircuit c := by
  rw [circuits, List.mem_flatMap]
  constructor
  · rintro ⟨root, hr, hc⟩
    obtain ⟨rest, rfl⟩ := exists_eq_cons_of_mem_circuitsFrom hc
    exact (cons_mem_circuitsFrom_iff hr).mp hc
  · intro h
    obtain ⟨root, rest, rfl⟩ := List.exists_cons_of_ne_nil h.ne_nil
    have hr := h.subset_ids List.mem_cons_self
    exact ⟨root, hr, (cons_mem_circuitsFrom_iff hr).mpr h⟩

theorem pairwise_circuits :
    d.circuits.Pairwise fun a b => d.positions a < d.positions b := by
  refine List.pairwise_flatMap.mpr ⟨fun root _ => pairwise_circuitsFrom root, ?_⟩
  refine d.pairwise_position_ids.imp fun {a b} hlt => ?_
  intro p hp q hq
  obtain ⟨p, rfl⟩ := exists_eq_cons_of_mem_circuitsFrom hp
  obtain ⟨q, rfl⟩ := exists_eq_cons_of_mem_circuitsFrom hq
  simp [positions, List.cons_lt_cons_iff, hlt]

theorem nodup_circuits : d.circuits.Nodup :=
  pairwise_circuits.imp fun h he => by simp [he] at h

end DesignRules.Diagram
