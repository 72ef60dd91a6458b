import DesignRules.Proofs.Text.Utf8
import DesignRules.Text.Case
import Mathlib.Tactic.SplitIfs

/-! # Letter case of marks

An ASCII mark is found in a text of lower-case letters only where the text itself has the mark, in
any case of its ASCII letters. The two characters beyond ASCII with a lower case inside it are the
Kelvin sign and the capital I with a dot.
-/

namespace DesignRules.Text

variable {c : Char} {cs before mark : List Char}

theorem find?_lowerShifts {n m : Nat} (hn : 128 ≤ n) (h : Shift.find? lowerShifts n = some m) :
    m = 'k'.toNat ∨ 128 ≤ m ∧ (m < 0xd800 ∨ 0xdfff < m ∧ m < 0x110000) := by
  have htable : ∀ s ∈ lowerShifts, s.last < 128 ∨
      s.first = s.last ∧ (s.first : Int) + s.shift = 'k'.toNat ∨
      128 ≤ (s.first : Int) + s.shift ∧ (s.last : Int) + s.shift < 0xd800 ∨
      0xdfff < (s.first : Int) + s.shift ∧ (s.last : Int) + s.shift < 0x110000 := by
    decide +kernel
  obtain ⟨s, hs, rfl⟩ := Option.map_eq_some_iff.mp h
  have hrange := List.find?_some hs
  simp only [Shift.contains, Bool.and_eq_true, decide_eq_true_eq] at hrange
  rcases htable s (List.mem_of_find?_eq_some hs) with hlast | hkelvin | hlow | hhigh <;> omega

theorem lowerAt_of_not_ascii (h : 128 ≤ c.toNat) (before after : List Char) :
    (∃ d, lowerAt before c after = [d] ∧ (128 ≤ d.toNat ∨ d = 'k')) ∨
      lowerAt before c after = ['i', '\u0307'] := by
  unfold lowerAt
  split
  case isTrue => exact .inl ⟨_, rfl, .inl (by split <;> decide)⟩
  unfold lowerChar
  rw [if_neg (by omega)]
  split
  case isTrue => exact .inr rfl
  split
  case _ m hm =>
    refine .inl ⟨_, rfl, ?_⟩
    rcases find?_lowerShifts h hm with rfl | ⟨hlarge, hvalid⟩
    · exact .inr rfl
    · exact .inl (by rwa [toNat_ofNat hvalid])
  case _ => exact .inl ⟨c, rfl, .inl h⟩

theorem lowerAt_of_ascii (h : c.toNat < 128) (before after : List Char) :
    lowerAt before c after = [c.toLower] := by
  have hsigma : c ≠ 'Σ' := fun heq => by simp [heq] at h
  rw [lowerAt, if_neg hsigma, lowerChar, if_pos h]

theorem lowerFrom_of_ascii (h : ∀ c ∈ cs, c.toNat < 128) (before : List Char) :
    lowerFrom before cs = cs.map Char.toLower := by
  induction cs generalizing before with
  | nil => rfl
  | cons c cs ih =>
    obtain ⟨hc, hcs⟩ := List.forall_mem_cons.mp h
    rw [lowerFrom, ih hcs, lowerAt_of_ascii hc]
    rfl

theorem ascii_of_toLower (h : c.toLower.toNat < 128) : c.toNat < 128 := by
  unfold Char.toLower at h
  split at h
  case isTrue hupper => exact Nat.lt_of_le_of_lt (UInt32.le_iff_toNat_le.mp hupper.2) (by decide)
  case isFalse => exact h

/-- A text in lower case is a mark if and only if the text is, whatever the case of its letters. -/
theorem lowerFrom_eq_iff (hmark : ∀ m ∈ mark, m.toNat < 128 ∧ m ≠ 'k') :
    lowerFrom before cs = mark ↔ cs.map Char.toLower = mark := by
  induction cs generalizing before mark with
  | nil => rfl
  | cons c cs ih =>
    by_cases hc : c.toNat < 128
    · rw [lowerFrom, lowerAt_of_ascii hc, List.singleton_append, List.map_cons]
      cases mark with
      | nil => simp
      | cons m mark =>
        rw [List.cons_eq_cons, List.cons_eq_cons, ih (List.forall_mem_cons.mp hmark).2]
    · refine iff_of_false ?_ ?_
      · rintro rfl
        rcases lowerAt_of_not_ascii (Nat.le_of_not_lt hc) before cs with ⟨d, hd, hlarge⟩ | hdotted
        · obtain ⟨hsmall, hk⟩ := hmark d (by simp [lowerFrom, hd])
          exact hlarge.elim (Nat.not_le_of_lt hsmall) hk
        · exact absurd (hmark '\u0307' (by simp [lowerFrom, hdotted])).1 (by decide)
      · rintro rfl
        exact hc (ascii_of_toLower (hmark _ List.mem_cons_self).1)

/-- The same for a text that starts with a mark; here the mark has no letter i either. -/
theorem isPrefix_lowerFrom_iff (hmark : ∀ m ∈ mark, m.toNat < 128 ∧ m ≠ 'k' ∧ m ≠ 'i') :
    mark <+: lowerFrom before cs ↔ mark <+: cs.map Char.toLower := by
  induction mark generalizing before cs with
  | nil => simp
  | cons m mark ih =>
    obtain ⟨⟨hascii, hk, hi⟩, hmark⟩ := List.forall_mem_cons.mp hmark
    cases cs with
    | nil => rfl
    | cons c cs =>
      rw [lowerFrom, List.map_cons, List.cons_prefix_cons]
      by_cases hc : c.toNat < 128
      · rw [lowerAt_of_ascii hc, List.singleton_append, List.cons_prefix_cons, ih hmark]
      · refine iff_of_false ?_ ?_
        · rcases lowerAt_of_not_ascii (Nat.le_of_not_lt hc) before cs with ⟨d, hd, hlarge⟩ | hdotted
          · rw [hd, List.singleton_append, List.cons_prefix_cons]
            rintro ⟨rfl, -⟩
            exact hlarge.elim (Nat.not_le_of_lt hascii) hk
          · rw [hdotted, List.cons_append, List.cons_prefix_cons]
            exact fun h => hi h.1
        · rintro ⟨rfl, -⟩
          exact hc (ascii_of_toLower hascii)

end DesignRules.Text
