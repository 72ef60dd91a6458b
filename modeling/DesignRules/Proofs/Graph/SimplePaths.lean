import DesignRules.Graph.Paths
import Mathlib.Data.List.Chain
import Mathlib.Data.List.Count
import Mathlib.Data.List.Nodup
import Mathlib.Algebra.BigOperators.Group.List.Basic
import Mathlib.Tactic.Ring

/-! # Simple paths

Depth-first search finds every path without a repeated vertex within its depth, once for
every way to choose its steps, and in lexicographic order if the steps are ordered.
-/

namespace DesignRules

/-- If only the part of one element holds `x`, its occurrences are counted there. -/
theorem count_flatMap_of_unique {α β : Type} [DecidableEq α] [BEq β]
    {l : List α} {f : α → List β} {a : α} {x : β}
    (h : ∀ b ∈ l, b ≠ a → (f b).count x = 0) :
    (l.flatMap f).count x = l.count a * (f a).count x := by
  induction l with
  | nil => simp
  | cons b l ih =>
    rw [List.flatMap_cons, List.count_append, ih fun c hc => h c (List.mem_cons_of_mem b hc)]
    by_cases hb : b = a
    · subst hb
      rw [List.count_cons_self]
      ring
    · rw [h b List.mem_cons_self hb, List.count_cons_of_ne hb, Nat.zero_add]

theorem forall_mem_of_isChain_cons {α : Type} {r : α → α → Prop} {p : α → Prop} {a : α} {l : List α}
    (h : (a :: l).IsChain r) (hp : ∀ b c, r b c → p c) : ∀ b ∈ l, p b := by
  induction l generalizing a with
  | nil => simp
  | cons b l ih =>
    obtain ⟨hab, hl⟩ := List.isChain_cons_cons.mp h
    exact List.forall_mem_cons.mpr ⟨hp a b hab, ih hl⟩

theorem prod_zipWith_pos_iff {α : Type} {f : α → α → ℕ} (v : α) (rest : List α) :
    0 < (List.zipWith f (v :: rest) rest).prod ↔ (v :: rest).IsChain fun a b => 0 < f a b := by
  induction rest generalizing v with
  | nil => simp
  | cons w rest ih =>
    rw [List.zipWith_cons_cons, List.prod_cons, List.isChain_cons_cons, ← ih w]
    simp only [Nat.pos_iff_ne_zero, Nat.mul_ne_zero_iff]

variable {α : Type} [DecidableEq α] {next : α → List α}

theorem head?_of_mem_simplePaths {n : ℕ} {seen p : List α} {v : α}
    (h : p ∈ simplePaths next n seen v) : p.head? = some v := by
  cases n with
  | zero => simp_all [simplePaths]
  | succ n =>
    simp only [simplePaths, List.mem_cons, List.mem_flatMap, List.mem_map] at h
    rcases h with rfl | ⟨w, _, q, _, rfl⟩ <;> rfl

theorem count_map_cons (v : α) (p : List α) (ps : List (List α)) :
    (ps.map (v :: ·)).count (v :: p) = ps.count p :=
  List.count_map_of_injective ps _ (List.cons_injective) p

theorem count_simplePaths_singleton (n : ℕ) (seen : List α) (v : α) :
    (simplePaths next n seen v).count [v] = 1 := by
  cases n with
  | zero => simp [simplePaths]
  | succ n =>
    rw [simplePaths, List.count_cons_self, List.count_eq_zero_of_not_mem]
    simp only [List.mem_flatMap, List.mem_map, not_exists, not_and]
    rintro w _ p hp ⟨⟩
    simpa using head?_of_mem_simplePaths hp

theorem count_simplePaths_cons (n : ℕ) (seen : List α) (v w : α) (rest : List α) :
    (simplePaths next (n + 1) seen v).count (v :: w :: rest) =
      (if w ∈ v :: seen then 0 else (next v).count w) *
        (simplePaths next n (v :: seen) w).count (w :: rest) := by
  rw [simplePaths, List.count_cons_of_ne (by simp), count_flatMap_of_unique (a := w),
    count_map_cons]
  · congr 1
    by_cases hw : w ∈ v :: seen
    · rw [if_pos hw, List.count_eq_zero_of_not_mem]
      simpa using fun _ h => (List.mem_cons.mp hw).resolve_left h
    · rw [if_neg hw, List.count_filter (by simpa using hw)]
  · intro u _ hu
    rw [List.count_eq_zero_of_not_mem]
    simp only [List.mem_map, not_exists, not_and]
    rintro p hp ⟨⟩
    simpa [hu.symm] using head?_of_mem_simplePaths hp

/-- A path is found once for every way to choose its steps. -/
theorem count_simplePaths (n : ℕ) (seen : List α) (v : α) (rest : List α) :
    (simplePaths next n seen v).count (v :: rest) =
      if rest.length ≤ n ∧ rest.Nodup ∧ ∀ w ∈ rest, w ∉ v :: seen then
        (List.zipWith (fun a b => (next a).count b) (v :: rest) rest).prod
      else 0 := by
  induction rest generalizing n seen v with
  | nil => simp [count_simplePaths_singleton]
  | cons w rest ih =>
    cases n with
    | zero => simp [simplePaths]
    | succ n =>
      rw [count_simplePaths_cons, ih]
      by_cases hw : w ∈ v :: seen
      · have hn : ¬ ∀ u ∈ w :: rest, u ∉ v :: seen := fun h => h w List.mem_cons_self hw
        rw [if_pos hw, Nat.zero_mul, if_neg fun h => hn h.2.2]
      · rw [if_neg hw, List.zipWith_cons_cons, List.prod_cons]
        have hc : (rest.length ≤ n ∧ rest.Nodup ∧ ∀ u ∈ rest, u ∉ w :: v :: seen) ↔
            ((w :: rest).length ≤ n + 1 ∧ (w :: rest).Nodup ∧ ∀ u ∈ w :: rest, u ∉ v :: seen) := by
          grind
        simp only [hc, mul_ite, mul_zero]

theorem cons_mem_simplePaths_iff {n : ℕ} {seen rest : List α} {v : α} :
    v :: rest ∈ simplePaths next n seen v ↔
      (rest.length ≤ n ∧ rest.Nodup ∧ ∀ w ∈ rest, w ∉ v :: seen) ∧
        (v :: rest).IsChain fun a b => b ∈ next a := by
  rw [← List.count_pos_iff, count_simplePaths]
  split
  case isTrue h => simp only [prod_zipWith_pos_iff, List.count_pos_iff, h, true_and]; tauto
  case isFalse h => simp only [h, false_and, Nat.lt_irrefl]

/-- Steps that are offered in increasing order give paths in lexicographic order. -/
theorem pairwise_simplePaths {f : α → ℕ} (h : ∀ a, (next a).Pairwise (f · < f ·)) (n : ℕ)
    (seen : List α) (v : α) :
    (simplePaths next n seen v).Pairwise fun p q => p.map f < q.map f := by
  induction n generalizing seen v with
  | zero => simp [simplePaths]
  | succ n ih =>
    rw [simplePaths, List.pairwise_cons]
    constructor
    · intro p hp
      simp only [List.mem_flatMap, List.mem_map] at hp
      obtain ⟨w, _, q, hq, rfl⟩ := hp
      obtain ⟨q, rfl⟩ := List.head?_eq_some_iff.mp (head?_of_mem_simplePaths hq)
      simp
    · simp only [List.pairwise_flatMap, List.pairwise_map, List.map_cons, List.mem_map,
        List.cons_lt_cons_self]
      refine ⟨fun w _ => ih _ w, ((h v).filter _).imp fun {a b} hab => ?_⟩
      rintro _ ⟨p, hp, rfl⟩ _ ⟨q, hq, rfl⟩
      obtain ⟨p, rfl⟩ := List.head?_eq_some_iff.mp (head?_of_mem_simplePaths hp)
      obtain ⟨q, rfl⟩ := List.head?_eq_some_iff.mp (head?_of_mem_simplePaths hq)
      simp [List.cons_lt_cons_iff, hab]

end DesignRules
