import DesignRules.Numeral
import Mathlib.Data.List.Basic

/-! # Numerals

The digits of a number denote it again, so that distinct numbers are written differently.
-/

namespace DesignRules.Numeral

variable {base n d : ℕ} {digit? : Char → Option ℕ}

theorem ofDigits_append_singleton (base : ℕ) (ds : List ℕ) (d : ℕ) :
    ofDigits base (ds ++ [d]) = base * ofDigits base ds + d := by
  rw [ofDigits, List.foldl_append]
  rfl

theorem ofDigits_digits (base n : ℕ) : ofDigits base (digits base n) = n := by
  fun_induction digits base n with
  | case1 => simp [ofDigits]
  | case2 n _ ih => rw [ofDigits_append_singleton, ih, Nat.div_add_mod]

theorem lt_of_mem_digits (hbase : 2 ≤ base) (h : d ∈ digits base n) : d < base := by
  fun_induction digits base n with
  | case1 n hn =>
    rw [List.mem_singleton] at h
    omega
  | case2 n _ ih =>
    rcases List.mem_append.mp h with h | h
    · exact ih h
    · rw [List.mem_singleton.mp h]
      exact Nat.mod_lt n (by omega)

theorem digits_ne_nil (base n : ℕ) : digits base n ≠ [] := by
  unfold digits
  split <;> simp

theorem mapM_map_eq_some {α β : Type} {read : α → Option β} {write : β → α} {l : List β}
    (h : ∀ b ∈ l, read (write b) = some b) : (l.map write).mapM read = some l := by
  induction l with
  | nil => rfl
  | cons b l ih =>
    obtain ⟨hb, hl⟩ := List.forall_mem_cons.mp h
    simp [hb, ih hl]

theorem run?_map {write : ℕ → Char} {ds : List ℕ} (hne : ds ≠ [])
    (hdigit : ∀ d ∈ ds, digit? (write d) = some d) (base : ℕ) :
    run? digit? base (ds.map write) = some (ofDigits base ds) := by
  have hempty : (ds.map write).isEmpty = false := by simpa using hne
  rw [run?, hempty, mapM_map_eq_some hdigit]
  rfl

/-- What is written in a base reads back in it. -/
theorem run?_natural (hbase : 2 ≤ base) (hdigit : ∀ d < base, digit? (digitChar d) = some d)
    (n : ℕ) : run? digit? base (natural base n) = some n := by
  have hread := run?_map (digits_ne_nil base n)
    (fun d hd => hdigit d (lt_of_mem_digits hbase hd)) base
  rwa [ofDigits_digits] at hread

/-- Leading zeros do not matter. -/
theorem ofDigits_replicate_zero_append (base k : ℕ) (ds : List ℕ) :
    ofDigits base (List.replicate k 0 ++ ds) = ofDigits base ds := by
  rw [ofDigits, List.foldl_append]
  congr 1
  induction k with
  | zero => rfl
  | succ k ih => simpa [List.replicate_succ] using ih

theorem ofNat_injective : Function.Injective ofNat := by
  have hdigit : ∀ d < 10, Text.digitValue? (digitChar d) = some d := by decide
  intro m n h
  have hchars : natural 10 m = natural 10 n := String.ofList_inj.mp h
  have hread := congrArg (run? Text.digitValue? 10) hchars
  rw [run?_natural (by omega) hdigit, run?_natural (by omega) hdigit] at hread
  exact Option.some_inj.mp hread

end DesignRules.Numeral
