import DesignRules.Proofs.Numeral.Runs
import Mathlib.Data.List.DropRight

/-! # Spellings of widths

Every spelling of an integer is read as that integer: a text with white space, a sign and leading
zeros as well as a float with its value. What is read is in a normal form, which is read as itself.
-/

namespace DesignRules

open Numeral Schema Schema.Checked

namespace Text

variable {cs : List Char}

theorem trimEnd_eq_rdropWhile (cs : List Char) : trimEnd cs = cs.rdropWhile isBlank := rfl

/-- What is trimmed starts with no white space. -/
theorem dropWhile_trimChars (cs : List Char) : (trimChars cs).dropWhile isBlank = trimChars cs :=
  dropWhile_of_head? (ends_dropWhile isBlank cs).1

theorem trimChars_trimChars (cs : List Char) : trimChars (trimChars cs) = trimChars cs := by
  rw [trimChars, dropWhile_trimChars, trimChars, trimEnd_eq_rdropWhile, trimEnd_eq_rdropWhile,
    List.rdropWhile_idempotent]

end Text

namespace Binary64

/-- The float has the value of the integer. -/
def Equals (x : Binary64) (n : ℤ) : Prop := ∃ y, x.extended? = some y ∧ y.eq (.ofInt n)

theorem toInt?_eq_some_iff {x : Binary64} {n : ℤ} : x.toInt? = some n ↔ x.Equals n := by
  cases x with
  | finite negative m e =>
    have hpos : (0 : ℤ) < denominator e := by exact_mod_cast Nat.two_pow_pos _
    have hequals : Equals (.finite negative m e) n ↔
        numerator negative m e = denominator e * n := by
      simp only [Equals, extended?, Option.some.injEq, exists_eq_left', Extended.eq, Extended.ofInt,
        Extended.le, Bool.and_eq_true, decide_eq_true_eq, Nat.cast_one, mul_one]
      rw [mul_comm n, ← le_antisymm_iff]
    rw [hequals, toInt?]
    split
    case isTrue hmod =>
      rw [Option.some_inj]
      exact Int.ediv_eq_iff_eq_mul_right hpos.ne' (Int.dvd_of_emod_eq_zero hmod)
    case isFalse hmod =>
      simp only [reduceCtorEq, false_iff]
      intro heq
      exact hmod (by rw [heq, Int.mul_emod_right])
  | infinite negative =>
    cases negative <;>
      simp [toInt?, Equals, extended?, Extended.eq, Extended.le, Extended.ofInt]
  | nan => simp [toInt?, Equals, extended?]

end Binary64

namespace Width

variable {cs run : List Char} {n z : ℤ} {value : Datum} {w : Width}

/-- Decimal digits with an optional sign before them. -/
def IsSignedRun (cs : List Char) : Prop :=
  ∃ run value z, IsRun Text.digitValue? run ∧ Signed run value cs z

/-- The integer itself, a decimal numeral with white space around it, or a float of its value. -/
inductive Spells (n : ℤ) : Datum → Prop
  | number : Spells n (.int n)
  | numeral {s : String} (h : Padded Text.isBlank (fun core => IsDecimal core n) s.toList) :
      Spells n (.text s)
  | float {x : Binary64} (h : x.Equals n) : Spells n (.float x)

/-- A width that is not another spelling of a number. -/
inductive IsNormal : Width → Prop
  | flag (b : Bool) : IsNormal (.flag b)
  | number (n : ℤ) : IsNormal (.number n)
  | fraction {x : Binary64} (h : ∀ n, ¬ x.Equals n) : IsNormal (.fraction x)
  | word {s : String} (htrim : Text.trim s = s) (h : ¬ IsSignedRun s.toList) : IsNormal (.word s)

/-! ## Texts -/

theorem isIntegerText_iff_isRun : isIntegerText cs ↔ IsRun Text.digitValue? (unsignedPart cs) := by
  simp [isIntegerText, IsRun, Text.isDigit]

theorem unsignedPart_of_signed {value : ℕ} (hrun : IsRun Text.digitValue? run)
    (h : Signed run value cs z) : unsignedPart cs = run := by
  have hsigns : Text.digitValue? '+' = none ∧ Text.digitValue? '-' = none := by decide
  cases h with
  | plus | minus => rfl
  | unsigned =>
    unfold unsignedPart
    split
    case h_1 rest => exact absurd hrun (not_isRun_sign hsigns rest).2
    case h_2 rest => exact absurd hrun (not_isRun_sign hsigns rest).1
    case h_3 => rfl

theorem isIntegerText_iff : isIntegerText cs ↔ IsSignedRun cs := by
  rw [isIntegerText_iff_isRun]
  constructor
  · intro h
    unfold unsignedPart at h
    split at h
    case h_1 rest => exact ⟨rest, 0, _, h, .minus⟩
    case h_2 rest => exact ⟨rest, 0, _, h, .plus⟩
    case h_3 => exact ⟨cs, 0, _, h, .unsigned⟩
  · rintro ⟨run, value, z, hrun, hsigned⟩
    rwa [unsignedPart_of_signed hrun hsigned]

theorem ofText_of_isDecimal {s : String} (h : IsDecimal (Text.trimChars s.toList) n) :
    ofText s = .valid (.number n) := by
  obtain ⟨run, hrun, hlength, hsigned⟩ := h
  have hinteger : isIntegerText (Text.trimChars s.toList) :=
    isIntegerText_iff.mpr ⟨run, _, _, hrun, hsigned⟩
  have hread : readDecimal? (Text.trimChars s.toList) = some n :=
    readDecimal?_eq_some_iff.mpr (.of_inner ⟨run, hrun, hlength, hsigned⟩)
  simp [ofText, hinteger, hread, ofOption]

theorem isNormal_of_ofText {s : String} (h : ofText s = .valid w) : w.IsNormal := by
  unfold ofText at h
  dsimp only at h
  split at h
  case isTrue =>
    cases hread : readDecimal? (Text.trimChars s.toList) with
    | none => simp [hread, ofOption, fail, map] at h
    | some n =>
      obtain rfl : Width.number n = w := by simpa [hread, ofOption] using h
      exact .number n
  case isFalse hword =>
    cases h
    rw [isIntegerText_iff] at hword
    refine .word ?_ (by rwa [String.toList_ofList])
    rw [Text.trim, String.toList_ofList, Text.trimChars_trimChars]

/-! ## Values -/

theorem read_text (s : String) : read (.text s) = (ofText s).map some := rfl

theorem spells_text_iff {s : String} :
    Spells n (.text s) ↔ signed? decimalRun? (Text.trimChars s.toList) = some n := by
  have hpadded : Padded Text.isBlank (fun core => IsDecimal core n) s.toList ↔
      IsDecimal (Text.trimChars s.toList) n :=
    padded_iff fun core hcore c hc => hcore.isBlank_eq_false hc
  rw [signed?_decimalRun?_eq_some_iff, ← hpadded]
  constructor
  · intro h
    cases h with
    | numeral h => exact h
  · exact .numeral

theorem read_of_spells (h : Spells n value) : read value = .valid (some (.number n)) := by
  cases h with
  | number => rfl
  | @numeral s h =>
    have hdecimal : IsDecimal (Text.trimChars s.toList) n :=
      signed?_decimalRun?_eq_some_iff.mp (spells_text_iff.mp (.numeral h))
    rw [read_text, ofText_of_isDecimal hdecimal, map_valid]
  | @float x h =>
    have hread : read (.float x) = .valid (some (ofFloat x)) := rfl
    rw [hread, ofFloat, Binary64.toInt?_eq_some_iff.mpr h]

theorem isNormal_ofFloat (x : Binary64) : (ofFloat x).IsNormal := by
  unfold ofFloat
  split
  case h_1 n hn => exact .number n
  case h_2 hnone =>
    refine .fraction fun n hn => ?_
    rw [Binary64.toInt?_eq_some_iff.mpr hn] at hnone
    cases hnone

theorem isNormal_of_read (h : read value = .valid (some w)) : w.IsNormal := by
  unfold read at h
  split at h
  case h_1 => cases h
  case h_2 b =>
    cases h
    exact .flag b
  case h_3 n =>
    cases h
    exact .number n
  case h_4 x =>
    cases h
    exact isNormal_ofFloat x
  case h_5 =>
    obtain ⟨s, -, hs⟩ := andThen_eq_valid_iff.mp h
    cases htext : ofText s with
    | valid u =>
      obtain rfl : u = w := by simpa [htext] using hs
      exact isNormal_of_ofText htext
    | invalid issues => simp [htext, map] at hs

theorem read_toDatum (h : w.IsNormal) : read w.toDatum = .valid (some w) := by
  cases h with
  | flag | number => rfl
  | @fraction x h =>
    have hnone : x.toInt? = none := Option.eq_none_iff_forall_ne_some.mpr fun n hn =>
      h n (Binary64.toInt?_eq_some_iff.mp hn)
    have hread : read (.float x) = .valid (some (ofFloat x)) := rfl
    rw [toDatum, hread, ofFloat, hnone]
  | @word s htrim h =>
    have htrimmed : Text.trimChars s.toList = s.toList := by
      rw [← String.toList_ofList (l := Text.trimChars s.toList)]
      exact congrArg String.toList htrim
    have hword : isIntegerText s.toList = false := Bool.eq_false_iff.mpr (mt isIntegerText_iff.mp h)
    simp [toDatum, read_text, ofText, htrimmed, hword]

/-- A width that has been read is read as itself. -/
theorem read_idempotent {o : Option Width} (h : read value = .valid o) :
    read (o.elim .null toDatum) = .valid o := by
  cases o with
  | none => rfl
  | some w => exact read_toDatum (isNormal_of_read h)

end Width

end DesignRules
