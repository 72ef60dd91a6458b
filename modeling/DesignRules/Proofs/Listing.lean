import Mathlib.Data.List.Forall2
import Mathlib.Data.List.ProdSigma

/-! # Listed members

What is listed about the members of a list that have a property, about the pairs of members of
two lists, and about the pairs of a member with a later one.
-/

namespace DesignRules

variable {α β γ : Type}

theorem flatMap_filter (p : α → Bool) (f : α → List β) (l : List α) :
    (l.filter p).flatMap f = l.flatMap fun a => if p a then f a else [] := by
  induction l with
  | nil => rfl
  | cons a l ih => cases h : p a <;> simp [h, ih]

theorem map_filter_eq_flatMap (p : α → Bool) (f : α → β) (l : List α) :
    (l.filter p).map f = l.flatMap fun a => if p a then [f a] else [] := by
  rw [List.map_eq_flatMap, flatMap_filter]

/-- Exactly the items with a property give something, each of them one thing. -/
theorem forall₂_filterMap_filter {f : α → Option β} {p : α → Prop} [DecidablePred p]
    {R : β → α → Prop} (hsome : ∀ a, (f a).isSome ↔ p a) (hR : ∀ a b, f a = some b → R b a)
    (l : List α) : List.Forall₂ R (l.filterMap f) (l.filter p) := by
  induction l with
  | nil => exact .nil
  | cons a l ih =>
    cases ha : f a with
    | none =>
      have hp : ¬ p a := by simp [← hsome, ha]
      rw [List.filterMap_cons_none ha, List.filter_cons_of_neg (by simpa using hp)]
      exact ih
    | some b =>
      have hp : p a := by simp [← hsome, ha]
      rw [List.filterMap_cons_some ha, List.filter_cons_of_pos (by simpa using hp)]
      exact .cons (hR a b ha) ih

theorem forall₂_map_filter {f : α → β} {q : α → Bool} {p : α → Prop} [DecidablePred p]
    {R : β → α → Prop} {l : List α} (hq : ∀ a ∈ l, q a ↔ p a) (hR : ∀ a, R (f a) a) :
    List.Forall₂ R ((l.filter q).map f) (l.filter p) := by
  have hfilter : l.filter q = l.filter p :=
    List.filter_congr fun a ha => by rw [Bool.eq_iff_iff, decide_eq_true_iff, hq a ha]
  rw [hfilter, List.forall₂_map_left_iff, List.forall₂_same]
  exact fun a _ => hR a

/-- A stronger property that as many items have is one that the same items have. -/
theorem forall_mem_of_length_filter_eq {p q : α → Bool} {l : List α} (hpq : ∀ a, p a → q a)
    (h : (l.filter p).length = (l.filter q).length) : ∀ a ∈ l, q a → p a := by
  have hsub : (l.filter p).Sublist (l.filter q) := List.monotone_filter_right l hpq
  intro a ha hqa
  have hmem : a ∈ l.filter p := (hsub.eq_of_length h) ▸ List.mem_filter.mpr ⟨ha, hqa⟩
  exact (List.mem_filter.mp hmem).2

/-! ## Pairs -/

theorem flatMap_map_filter (f : α → β → γ) (q : α → β → Bool) (l : List α) (l' : List β) :
    l.flatMap (fun a => (l'.filter (q a)).map (f a)) =
      ((l ×ˢ l').filter fun p => q p.1 p.2).map fun p => f p.1 p.2 := by
  induction l with
  | nil => rfl
  | cons a l ih =>
    rw [List.flatMap_cons, ih, List.product_cons, List.filter_append, List.map_append,
      List.filter_map, List.map_map]
    rfl

/-- The places of two members of a list, the first before the second, in lexicographic order. -/
def laterPlaces (n : ℕ) : List (Fin n × Fin n) :=
  (List.finRange n ×ˢ List.finRange n).filter fun p => p.1 < p.2

theorem filter_product_succ {n : ℕ} (l : List (Fin n)) :
    (l.map Fin.succ ×ˢ List.finRange (n + 1)).filter (fun p => p.1 < p.2) =
      ((l ×ˢ List.finRange n).filter fun p => p.1 < p.2).map fun p => (p.1.succ, p.2.succ) := by
  induction l with
  | nil => rfl
  | cons i l ih =>
    rw [List.map_cons, List.product_cons, List.product_cons, List.filter_append, ih,
      List.filter_append, List.map_append, List.finRange_succ]
    congr 1
    simp [List.filter_map, Function.comp_def]

theorem laterPlaces_succ (n : ℕ) : laterPlaces (n + 1) =
    (List.finRange n).map (fun j => (0, j.succ)) ++
      (laterPlaces n).map fun p => (p.1.succ, p.2.succ) := by
  have hfirst : ((List.finRange (n + 1)).map fun j => ((0 : Fin (n + 1)), j)).filter
      (fun p => p.1 < p.2) = (List.finRange n).map fun j => (0, j.succ) := by
    simp [List.finRange_succ, List.filter_map, Function.comp_def]
  rw [laterPlaces, laterPlaces, ← filter_product_succ, ← hfirst, ← List.filter_append,
    ← List.product_cons, ← List.finRange_succ]

end DesignRules
