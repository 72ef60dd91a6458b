import Mathlib.Algebra.BigOperators.Group.List.Lemmas
import Mathlib.Algebra.GroupWithZero.Nat
import Mathlib.Data.List.Induction
import Mathlib.Data.List.Nodup

/-! # Distinct elements

Erasing repetitions keeps the first occurrence of every element, in the order of these
occurrences.
-/

namespace DesignRules

variable {α : Type} [BEq α] [LawfulBEq α]

theorem eraseDups_append_singleton (l : List α) (a : α) :
    (l ++ [a]).eraseDups = if a ∈ l then l.eraseDups else l.eraseDups ++ [a] := by
  rw [List.eraseDups_append]
  by_cases h : a ∈ l
  · simp [List.removeAll, h]
  · simp [List.removeAll, h, List.eraseDups_cons]

theorem eraseDups_append_of_disjoint {l l' : List α} (h : ∀ a ∈ l', a ∉ l) :
    (l ++ l').eraseDups = l.eraseDups ++ l'.eraseDups := by
  have hfresh : l'.removeAll l = l' := List.filter_eq_self.mpr fun a ha => by simp [h a ha]
  rw [List.eraseDups_append, hfresh]

/-- Erasing repetitions does not depend on what the elements are. -/
theorem eraseDups_map {β : Type} [BEq β] [LawfulBEq β] {f : α → β} (hf : Function.Injective f)
    (l : List α) : (l.map f).eraseDups = l.eraseDups.map f := by
  induction l using List.reverseRecOn with
  | nil => rfl
  | append_singleton l a ih =>
    rw [List.map_append, List.map_singleton, eraseDups_append_singleton,
      eraseDups_append_singleton, ih]
    by_cases h : a ∈ l
    · rw [if_pos h, if_pos (List.mem_map_of_mem h)]
    · rw [if_neg h, if_neg ((List.mem_map_of_injective hf).not.mpr h), List.map_append,
        List.map_singleton]

/-- Elements stand in the order of their first occurrences. -/
theorem pairwise_idxOf_eraseDups (l : List α) :
    l.eraseDups.Pairwise fun a b => l.idxOf a < l.idxOf b := by
  induction l using List.reverseRecOn with
  | nil => simp
  | append_singleton l a ih =>
    have hl : l.eraseDups.Pairwise fun b c => (l ++ [a]).idxOf b < (l ++ [a]).idxOf c := by
      refine ih.imp_of_mem fun {b c} hb hc h => ?_
      rwa [List.idxOf_append_of_mem (List.mem_eraseDups.mp hb),
        List.idxOf_append_of_mem (List.mem_eraseDups.mp hc)]
    rw [eraseDups_append_singleton]
    split
    case isTrue => exact hl
    case isFalse h =>
      refine List.pairwise_append.mpr ⟨hl, List.pairwise_singleton _ _, ?_⟩
      intro b hb c hc
      obtain rfl := List.mem_singleton.mp hc
      have hb := List.mem_eraseDups.mp hb
      rw [List.idxOf_append_of_mem hb, List.idxOf_append_of_notMem h]
      have := List.idxOf_lt_length_of_mem hb
      omega

omit [BEq α] [LawfulBEq α] in
/-- The elements with a property stand among all elements in the order in which they stand among
themselves. -/
theorem findIdx_and_lt_of_filter {p q r : α → Bool} {l : List α}
    (h : (l.filter p).findIdx q < (l.filter p).findIdx r) :
    l.findIdx (fun a => p a && q a) < l.findIdx fun a => p a && r a := by
  induction l with
  | nil => simp at h
  | cons a l ih =>
    rw [List.findIdx_cons, List.findIdx_cons]
    cases hp : p a with
    | false =>
      rw [List.filter_cons_of_neg (by simp [hp])] at h
      simpa using ih h
    | true =>
      rw [List.filter_cons_of_pos hp, List.findIdx_cons, List.findIdx_cons] at h
      cases hr : r a with
      | true => cases hq : q a <;> simp [hq, hr] at h
      | false =>
        cases hq : q a with
        | true => simp
        | false =>
          rw [hq, hr, cond_false, cond_false, Nat.add_lt_add_iff_right] at h
          simpa using ih h

/-- The keys of the elements with a property stand in the order of the first elements that have the
property and the key. -/
theorem pairwise_findIdx_eraseDups {β : Type} (p : β → Bool) (key : β → α) (l : List β) :
    ((l.filter p).map key).eraseDups.Pairwise fun a b =>
      l.findIdx (fun c => p c && key c == a) < l.findIdx fun c => p c && key c == b := by
  refine (pairwise_idxOf_eraseDups _).imp fun h => ?_
  rw [List.idxOf, List.idxOf, List.findIdx_map, List.findIdx_map] at h
  exact findIdx_and_lt_of_filter h

theorem nodup_eraseDups (l : List α) : l.eraseDups.Nodup :=
  (pairwise_idxOf_eraseDups l).imp fun h he => by simp [he] at h

theorem length_eraseDups_le (l : List α) : l.eraseDups.length ≤ l.length :=
  (List.subperm_of_subset (nodup_eraseDups l) fun _ h => List.mem_eraseDups.mp h).length_le

theorem eraseDups_of_nodup {l : List α} (h : l.Nodup) : l.eraseDups = l := by
  induction l using List.reverseRecOn with
  | nil => rfl
  | append_singleton l a ih =>
    obtain ⟨hl, _, hne⟩ := List.nodup_append.mp h
    have ha : a ∉ l := fun hmem => hne a hmem a (List.mem_singleton_self a) rfl
    rw [eraseDups_append_singleton, if_neg ha, ih hl]

/-- Under distinct keys an element is found by its key. -/
theorem find?_eq_some_of_nodup {β : Type} {key : β → α} {l : List β} (h : (l.map key).Nodup)
    {b : β} (hb : b ∈ l) : l.find? (key · == key b) = some b := by
  have hfound : (l.find? (key · == key b)).isSome := List.find?_isSome.mpr ⟨b, hb, by simp⟩
  obtain ⟨c, hc⟩ := Option.isSome_iff_exists.mp hfound
  have hkey : key c = key b := by simpa using List.find?_some hc
  rw [hc, List.inj_on_of_nodup_map h (List.mem_of_find?_eq_some hc) hb hkey]

theorem eraseDups_perm {l l' : List α} (h : l.Perm l') : l.eraseDups.Perm l'.eraseDups := by
  refine (List.perm_ext_iff_of_nodup (nodup_eraseDups l) (nodup_eraseDups l')).mpr fun a => ?_
  rw [List.mem_eraseDups, List.mem_eraseDups, h.mem_iff]

theorem eraseDups_filter (p : α → Bool) (l : List α) :
    (l.filter p).eraseDups = l.eraseDups.filter p := by
  induction l using List.reverseRecOn with
  | nil => rfl
  | append_singleton l a ih =>
    rw [List.filter_append, eraseDups_append_singleton l, apply_ite (List.filter p),
      List.filter_append]
    cases hp : p a with
    | true =>
      have hmem : a ∈ l.filter p ↔ a ∈ l := by simp [hp]
      rw [List.filter_singleton, hp, cond_true, eraseDups_append_singleton, ih]
      simp only [hmem]
    | false =>
      rw [List.filter_singleton, hp, cond_false, List.append_nil, ih, List.append_nil, ite_self]

theorem eraseDups_append_eraseDups (l m : List α) :
    (l.eraseDups ++ m.eraseDups).eraseDups = (l ++ m).eraseDups := by
  induction m using List.reverseRecOn with
  | nil =>
    rw [List.eraseDups_nil, List.append_nil, List.append_nil,
      eraseDups_of_nodup (nodup_eraseDups l)]
  | append_singleton m a ih =>
    have hmem : a ∈ l.eraseDups ++ m.eraseDups ↔ a ∈ l ++ m := by
      simp only [List.mem_append, List.mem_eraseDups]
    rw [← List.append_assoc l, eraseDups_append_singleton (l ++ m), eraseDups_append_singleton m]
    by_cases ha : a ∈ m
    · rw [if_pos ha, if_pos (List.mem_append_right l ha), ih]
    · rw [if_neg ha, ← List.append_assoc, eraseDups_append_singleton, ih]
      simp only [hmem]

theorem eraseDups_append_congr {l l' m m' : List α} (hl : l.eraseDups = l'.eraseDups)
    (hm : m.eraseDups = m'.eraseDups) : (l ++ m).eraseDups = (l' ++ m').eraseDups := by
  rw [← eraseDups_append_eraseDups, hl, hm, eraseDups_append_eraseDups]

/-- In an increasing list the earlier of two members is the smaller one. -/
theorem idxOf_lt_idxOf_iff {rank : α → ℕ} {l : List α} (h : l.Pairwise fun a b => rank a < rank b)
    {a b : α} (ha : a ∈ l) (hb : b ∈ l) : l.idxOf a < l.idxOf b ↔ rank a < rank b := by
  have hlt {a b : α} (ha : a ∈ l) (hb : b ∈ l) (hab : l.idxOf a < l.idxOf b) :
      rank a < rank b := by
    have hpair := List.pairwise_iff_getElem.mp h _ _ (List.idxOf_lt_length_of_mem ha)
      (List.idxOf_lt_length_of_mem hb) hab
    rwa [List.getElem_idxOf, List.getElem_idxOf] at hpair
  refine ⟨hlt ha hb, fun hrank => ?_⟩
  rcases Nat.lt_trichotomy (l.idxOf a) (l.idxOf b) with hab | hab | hab
  · exact hab
  · obtain rfl := (List.idxOf_inj ha).mp hab
    exact absurd hrank (Nat.lt_irrefl _)
  · exact absurd (hlt hb ha hab) (Nat.lt_asymm hrank)

/-! ## Lists of first occurrences -/

/-- The list holds the elements with a property, each once, in the order in which they first
occur among the values. -/
structure ListsFirst (values : List α) (p : α → Prop) (l : List α) : Prop where
  mem_iff : ∀ a, a ∈ l ↔ p a
  nodup : l.Nodup
  ordered : l.Pairwise fun a b => values.idxOf a < values.idxOf b

theorem listsFirst_filter_eraseDups {values : List α} {p : α → Prop} {q : α → Bool}
    (h : ∀ a, p a ↔ a ∈ values ∧ q a) : ListsFirst values p (values.eraseDups.filter q) where
  mem_iff a := by rw [h, List.mem_filter, List.mem_eraseDups]
  nodup := (nodup_eraseDups values).filter q
  ordered := (pairwise_idxOf_eraseDups values).sublist List.filter_sublist

/-! ## Counting -/

theorem eraseDups_perm_dedup [DecidableEq α] (l : List α) : l.eraseDups.Perm l.dedup := by
  refine (List.perm_ext_iff_of_nodup (nodup_eraseDups l) (List.nodup_dedup l)).mpr fun a => ?_
  rw [List.mem_eraseDups, List.mem_dedup]

/-- The elements with a property are counted by counting each distinct one of them. -/
theorem sum_count_filter_eraseDups (p : α → Bool) (l : List α) :
    ((l.eraseDups.filter p).map l.count).sum = l.countP p := by
  classical
  obtain rfl : ‹BEq α› = instBEqOfDecidableEq := lawful_beq_subsingleton _ _
  rw [← List.sum_map_count_dedup_filter_eq_countP p l]
  exact (((eraseDups_perm_dedup l).filter p).map _).sum_eq

end DesignRules
