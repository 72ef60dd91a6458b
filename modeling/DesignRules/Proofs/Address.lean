import DesignRules.Address.Literal
import DesignRules.Proofs.Json
import DesignRules.Proofs.Numeral
import DesignRules.Proofs.Text.Case

/-! # Addresses in hexadecimal

An integer in hexadecimal is read as that integer, be it negative or not, in capital or small
digits, with or without leading zeros.
-/

namespace DesignRules

/-! ## Digits and signs -/

namespace Numeral

variable {d : Nat} {ds : List Nat}

/-- The digit of a hexadecimal character, as it is looked up in a run. -/
def hexDigitBelow? (c : Char) : Option Nat := (hexDigit? c).filter (· < 16)

theorem hexDigitBelow?_digitChar (h : d < 16) : hexDigitBelow? (digitChar d) = some d := by
  have hdigits : ∀ d < 16, hexDigitBelow? (digitChar d) = some d := by decide
  exact hdigits d h

theorem digitChar_ne (h : d < 16) :
    digitChar d ≠ 'x' ∧ digitChar d ≠ 'X' ∧ digitChar d ≠ '-' ∧ digitChar d ≠ '+' := by
  have hdigits : ∀ d < 16, digitChar d ≠ 'x' ∧ digitChar d ≠ 'X' ∧ digitChar d ≠ '-' ∧
      digitChar d ≠ '+' := by decide
  exact hdigits d h

theorem isPadding_digitChar (h : d < 16) : isPadding (digitChar d) = false := by
  have hdigits : ∀ d < 16, isPadding (digitChar d) = false := by decide
  exact hdigits d h

section Digits

variable (hne : ds ≠ []) (hds : ∀ d ∈ ds, d < 16)

include hne hds

theorem markedRun?_digits : markedRun? 16 'x' (ds.map digitChar) = some (ofDigits 16 ds) := by
  have hrun : run? hexDigitBelow? 16 (ds.map digitChar) = some (ofDigits 16 ds) :=
    run?_map hne (fun d hd => hexDigitBelow?_digitChar (hds d hd)) 16
  match ds, hds, hrun with
  | [], _, hrun | [_], _, hrun => exact hrun
  | d :: e :: ds, hds, hrun =>
    -- The second digit is not the letter that marks the base.
    have hmark := digitChar_ne (hds e (by simp))
    rw [List.map_cons, List.map_cons, markedRun?, if_neg (by simp [hmark])]
    exact hrun

theorem readHex?_digits : readHex? (ds.map digitChar) = some ((ofDigits 16 ds : Nat) : Int) := by
  have hpadding : ∀ c ∈ ds.map digitChar, isPadding c = false :=
    List.forall_mem_map.mpr fun d hd => isPadding_digitChar (hds d hd)
  rw [readHex?, readMarked?, trimPadding_eq_self hpadding]
  have hrun := markedRun?_digits hne hds
  obtain ⟨d, ds, rfl⟩ := List.exists_cons_of_ne_nil hne
  have hsign := digitChar_ne (hds d List.mem_cons_self)
  rw [List.map_cons] at hrun ⊢
  unfold signed?
  split
  · simp_all
  · simp_all
  · rw [hrun]
    rfl

theorem readHex?_minus : readHex? ('-' :: ds.map digitChar) = some (-(ofDigits 16 ds : Int)) := by
  have hpadding : ∀ c ∈ '-' :: ds.map digitChar, isPadding c = false := by
    refine List.forall_mem_cons.mpr ⟨by decide, ?_⟩
    exact List.forall_mem_map.mpr fun d hd => isPadding_digitChar (hds d hd)
  rw [readHex?, readMarked?, trimPadding_eq_self hpadding, signed?, markedRun?_digits hne hds]
  rfl

end Digits

end Numeral

/-! ## Cleaning -/

namespace Address

/-- An ASCII character that is neither white space nor an underscore. -/
def isKept (c : Char) : Bool := decide (c.toNat < 128) && !Text.isBlank c && c.toLower != '_'

theorem cleaned_eq_map_toLower {cs : List Char} (h : ∀ c ∈ cs, isKept c) :
    cleaned (String.ofList cs) = cs.map Char.toLower := by
  have hkept : ∀ c ∈ cs, (c.toNat < 128 ∧ Text.isBlank c = false) ∧ c.toLower ≠ '_' := by
    simpa [isKept] using h
  rw [cleaned, Text.lower, Text.trim, String.toList_ofList, String.toList_ofList,
    String.toList_ofList, Text.trimChars_eq_self fun c hc => (hkept c hc).1.2,
    Text.lowerFrom_of_ascii fun c hc => (hkept c hc).1.1]
  exact List.filter_eq_self.mpr (by simpa using fun c hc => (hkept c hc).2)

/-! ## Reading back -/

section Hex

open Numeral

variable {write : Nat → Char} {ds : List Nat} {n : Int}

/-- A hexadecimal numeral with any spelling of the digits and any number of leading zeros. -/
theorem ofText?_hexadecimal (hwrite : ∀ d < 16, isKept (write d) ∧ (write d).toLower = digitChar d)
    (hne : ds ≠ []) (hds : ∀ d ∈ ds, d < 16) (hn : ofDigits 16 ds = n.natAbs) :
    ofText? (String.ofList
      ('0' :: 'x' :: if n < 0 then '-' :: ds.map write else ds.map write)) = some n := by
  have hlower : (ds.map write).map Char.toLower = ds.map digitChar := by
    rw [List.map_map]
    exact List.map_congr_left fun d hd => (hwrite d (hds d hd)).2
  have hkept : ∀ c ∈ ds.map write, isKept c :=
    List.forall_mem_map.mpr fun d hd => (hwrite d (hds d hd)).1
  rw [ofText?, cleaned_eq_map_toLower]
  · split
    case isTrue hneg =>
      have hread : readHex? ('-' :: ds.map digitChar) = some n := by
        rw [readHex?_minus hne hds, hn, Int.ofNat_natAbs_of_nonpos (by omega), Int.neg_neg]
      rw [List.map_cons, List.map_cons, List.map_cons, hlower]
      exact hread
    case isFalse hneg =>
      have hread : readHex? (ds.map digitChar) = some n := by
        rw [readHex?_digits hne hds, hn, Int.natAbs_of_nonneg (by omega)]
      rw [List.map_cons, List.map_cons, hlower]
      exact hread
  · refine List.forall_mem_cons.mpr ⟨by decide, List.forall_mem_cons.mpr ⟨by decide, ?_⟩⟩
    split
    · exact List.forall_mem_cons.mpr ⟨by decide, hkept⟩
    · exact hkept

theorem ofText?_hex (n : Int) : ofText? (hex n) = some n :=
  ofText?_hexadecimal (by decide) (digits_ne_nil 16 n.natAbs)
    (fun _ hd => lt_of_mem_digits (by omega) hd) (ofDigits_digits 16 n.natAbs)

theorem padZeros_map (width : Nat) (ds : List Nat) : padZeros width (ds.map capitalDigitChar) =
    (List.replicate (width - ds.length) 0 ++ ds).map capitalDigitChar := by
  rw [padZeros, List.length_map, List.map_append, List.map_replicate]
  rfl

theorem ofText?_paddedHex (n : Int) : ofText? (paddedHex n) = some n := by
  have hpadded (width : Nat) : ofText? (String.ofList ('0' :: 'x' ::
      if n < 0 then '-' :: padZeros width ((digits 16 n.natAbs).map capitalDigitChar)
      else padZeros width ((digits 16 n.natAbs).map capitalDigitChar))) = some n := by
    rw [padZeros_map]
    refine ofText?_hexadecimal (by decide) (by simp [digits_ne_nil]) (fun d hd => ?_) ?_
    · rcases List.mem_append.mp hd with hd | hd
      · rw [List.eq_of_mem_replicate hd]
        decide
      · exact lt_of_mem_digits (by omega) hd
    · rw [ofDigits_replicate_zero_append, ofDigits_digits]
  rw [paddedHex]
  split
  case isTrue hneg => simpa only [if_pos hneg] using hpadded 7
  case isFalse hneg => simpa only [if_neg hneg] using hpadded 8

example : paddedHex (-0x1f) = "0x-000001F" := by decide +kernel

end Hex

theorem read_text_eq_ok_iff {s : String} {n : Int} :
    Address.read (.text s) = .ok n ↔ ofText? s = some n := by
  rw [Address.read]
  cases ofText? s <;> simp

theorem read_of_ofText? {s : String} {n : Int} (h : ofText? s = some n) :
    Address.read (.text s) = .ok n :=
  read_text_eq_ok_iff.mpr h

end Address

end DesignRules
