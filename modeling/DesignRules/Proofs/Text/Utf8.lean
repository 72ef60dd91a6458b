import Mathlib.Data.Char
import DesignRules.Text.Utf8

/-! # UTF-8 read back

Decoding gives back every encoded text, and the octets that are whole characters are the
octets of texts.
-/

namespace DesignRules.Text

theorem toNat_ofNat {n : Nat} (h : n < 0xd800 ∨ 0xdfff < n ∧ n < 0x110000) :
    (Char.ofNat n).toNat = n := by
  rw [Char.ofNat, dif_pos h]
  rfl

namespace Utf8

variable {b : Nat} {c : Char} {p : Partial} {tail rest octets : List Nat}

/-- The octets that end a character under way, and the character. -/
inductive Completes : Partial → List Nat → Char → Prop where
  | last {p : Partial} {b : Nat} {c : Char} : p.owed ≤ 1 → p.low ≤ b → b ≤ p.high →
      c = Char.ofNat (p.bits * 0x40 + (b - 0x80)) → Completes p [b] c
  | next {p : Partial} {b : Nat} {tail : List Nat} {c : Char} : 1 < p.owed → p.low ≤ b →
      b ≤ p.high →
      Completes ⟨p.bits * 0x40 + (b - 0x80), p.owed - 1, 0x80, 0xbf⟩ tail c →
      Completes p (b :: tail) c

theorem Completes.decodeFrom_append (h : Completes p tail c) (rest : List Nat) :
    decodeFrom (some p) (tail ++ rest) = c :: decode rest := by
  induction h with
  | last howed hlow hhigh hc => simp [decodeFrom, step, advance, howed, hlow, hhigh, hc, decode]
  | next howed hlow hhigh _ ih =>
    simp [decodeFrom, step, advance, Nat.not_le.mpr howed, hlow, hhigh, ih]

theorem Completes.isWholeFrom_append (h : Completes p tail c) (rest : List Nat) :
    isWholeFrom (some p) (tail ++ rest) = isWhole rest := by
  induction h with
  | last howed hlow hhigh _ => simp [isWholeFrom, advance, howed, hlow, hhigh, isWhole]
  | next howed hlow hhigh _ ih =>
    simp [isWholeFrom, advance, Nat.not_le.mpr howed, hlow, hhigh, ih]

theorem exists_completes (h : isWholeFrom (some p) octets) :
    ∃ tail c rest, octets = tail ++ rest ∧ Completes p tail c ∧ isWhole rest := by
  induction octets generalizing p with
  | nil => simp [isWholeFrom] at h
  | cons b octets ih =>
    simp only [isWholeFrom, Bool.and_eq_true, decide_eq_true_eq] at h
    obtain ⟨⟨hlow, hhigh⟩, hwhole⟩ := h
    rw [advance, if_pos ⟨hlow, hhigh⟩] at hwhole
    by_cases howed : p.owed ≤ 1
    · rw [if_pos howed] at hwhole
      exact ⟨[b], _, octets, rfl, .last howed hlow hhigh rfl, hwhole⟩
    · rw [if_neg howed] at hwhole
      obtain ⟨tail, c, rest, rfl, hcompletes, hrest⟩ := ih hwhole
      exact ⟨b :: tail, c, rest, rfl, .next (by omega) hlow hhigh hcompletes, hrest⟩

theorem completes_one_iff {bits low high : Nat} :
    Completes ⟨bits, 1, low, high⟩ tail c ↔
      ∃ b, tail = [b] ∧ (low ≤ b ∧ b ≤ high) ∧ c = Char.ofNat (bits * 0x40 + (b - 0x80)) := by
  constructor
  · rintro (⟨_, hlow, hhigh, hc⟩ | ⟨howed, -, -, -⟩)
    · exact ⟨_, rfl, ⟨hlow, hhigh⟩, hc⟩
    · exact absurd howed (Nat.lt_irrefl 1)
  · rintro ⟨b, rfl, ⟨hlow, hhigh⟩, hc⟩
    exact .last le_rfl hlow hhigh hc

theorem completes_succ_iff {bits owed low high : Nat} :
    Completes ⟨bits, owed + 2, low, high⟩ tail c ↔
      ∃ b rest, tail = b :: rest ∧ (low ≤ b ∧ b ≤ high) ∧
        Completes ⟨bits * 0x40 + (b - 0x80), owed + 1, 0x80, 0xbf⟩ rest c := by
  constructor
  · rintro (⟨howed, -, -, -⟩ | ⟨_, hlow, hhigh, hrest⟩)
    · exact absurd howed (by simp)
    · exact ⟨_, _, rfl, ⟨hlow, hhigh⟩, hrest⟩
  · rintro ⟨b, rest, rfl, ⟨hlow, hhigh⟩, hrest⟩
    exact .next (by simp) hlow hhigh hrest

section Ranges

variable {n : Nat}

theorem encodeChar_ofNat_two (hlow : 0x80 ≤ n) (hhigh : n < 0x800) :
    encodeChar (Char.ofNat n) = [0xc0 + n / 0x40, 0x80 + n % 0x40] := by
  rw [encodeChar, toNat_ofNat (by omega), if_neg (by omega), if_pos hhigh]

theorem encodeChar_ofNat_three (hlow : 0x800 ≤ n) (hhigh : n < 0x10000)
    (hwhole : n < 0xd800 ∨ 0xdfff < n) :
    encodeChar (Char.ofNat n) =
      [0xe0 + n / 0x1000, 0x80 + n / 0x40 % 0x40, 0x80 + n % 0x40] := by
  rw [encodeChar, toNat_ofNat (by omega), if_neg (by omega), if_neg (by omega), if_pos hhigh]

theorem encodeChar_ofNat_four (hlow : 0x10000 ≤ n) (hhigh : n < 0x110000) :
    encodeChar (Char.ofNat n) =
      [0xf0 + n / 0x40000, 0x80 + n / 0x1000 % 0x40, 0x80 + n / 0x40 % 0x40, 0x80 + n % 0x40] := by
  rw [encodeChar, toNat_ofNat (by omega), if_neg (by omega), if_neg (by omega), if_neg (by omega)]

end Ranges

/-- The three forms of a character of several octets. The bounds of the second octet leave out
the longer spellings of shorter forms, the halves of surrogate pairs and what lies beyond the
last character. -/
theorem start_eq_some_iff : start b = ([], some p) ↔
    (0xc2 ≤ b ∧ b ≤ 0xdf) ∧ p = ⟨b - 0xc0, 1, 0x80, 0xbf⟩ ∨
    (0xe0 ≤ b ∧ b ≤ 0xef) ∧
      p = ⟨b - 0xe0, 2, if b = 0xe0 then 0xa0 else 0x80, if b = 0xed then 0x9f else 0xbf⟩ ∨
    (0xf0 ≤ b ∧ b ≤ 0xf4) ∧
      p = ⟨b - 0xf0, 3, if b = 0xf0 then 0x90 else 0x80, if b = 0xf4 then 0x8f else 0xbf⟩ := by
  unfold start
  split_ifs <;> simp <;> grind

theorem encodeChar_eq_of_completes (hstart : start b = ([], some p)) (h : Completes p tail c) :
    encodeChar c = b :: tail := by
  obtain ⟨hb, rfl⟩ | ⟨hb, rfl⟩ | ⟨hb, rfl⟩ := start_eq_some_iff.mp hstart
  · obtain ⟨d, rfl, hd, hc⟩ := completes_one_iff.mp h
    rw [hc, encodeChar_ofNat_two (by omega) (by omega)]
    simp only [List.cons.injEq, and_true]
    omega
  · obtain ⟨d, _, rfl, hd, h⟩ := completes_succ_iff.mp h
    obtain ⟨e, rfl, he, hc⟩ := completes_one_iff.mp h
    have hbounds : (0x80 ≤ d ∧ d ≤ 0xbf) ∧ (b = 0xe0 → 0xa0 ≤ d) ∧ (b = 0xed → d ≤ 0x9f) := by
      split_ifs at hd <;> omega
    rw [hc, encodeChar_ofNat_three (by omega) (by omega) (by omega)]
    simp only [List.cons.injEq, and_true]
    omega
  · obtain ⟨d, _, rfl, hd, h⟩ := completes_succ_iff.mp h
    obtain ⟨e, _, rfl, he, h⟩ := completes_succ_iff.mp h
    obtain ⟨f, rfl, hf, hc⟩ := completes_one_iff.mp h
    have hbounds : (0x80 ≤ d ∧ d ≤ 0xbf) ∧ (b = 0xf0 → 0x90 ≤ d) ∧ (b = 0xf4 → d ≤ 0x8f) := by
      split_ifs at hd <;> omega
    rw [hc, encodeChar_ofNat_four (by omega) (by omega)]
    simp only [List.cons.injEq, and_true]
    omega

theorem exists_start (c : Char) (h : 0x80 ≤ c.toNat) :
    ∃ b p tail, encodeChar c = b :: tail ∧ start b = ([], some p) ∧ Completes p tail c := by
  have hvalid : c.toNat < 0xd800 ∨ 0xdfff < c.toNat ∧ c.toNat < 0x110000 := c.valid
  obtain ⟨n, hn⟩ : ∃ n, c.toNat = n := ⟨_, rfl⟩
  obtain rfl : c = Char.ofNat n := by rw [← hn, Char.ofNat_toNat]
  rw [hn] at h hvalid
  by_cases h2 : n < 0x800
  · refine ⟨_, _, _, encodeChar_ofNat_two h h2, start_eq_some_iff.mpr (.inl ⟨by omega, rfl⟩), ?_⟩
    refine completes_one_iff.mpr ⟨_, rfl, by omega, congrArg Char.ofNat ?_⟩
    omega
  by_cases h3 : n < 0x10000
  · refine ⟨_, _, _, encodeChar_ofNat_three (by omega) h3 (by omega),
      start_eq_some_iff.mpr (.inr (.inl ⟨by omega, rfl⟩)), ?_⟩
    refine completes_succ_iff.mpr ⟨_, _, rfl, by split_ifs <;> omega, ?_⟩
    refine completes_one_iff.mpr ⟨_, rfl, by omega, congrArg Char.ofNat ?_⟩
    omega
  · refine ⟨_, _, _, encodeChar_ofNat_four (by omega) (by omega),
      start_eq_some_iff.mpr (.inr (.inr ⟨by omega, rfl⟩)), ?_⟩
    refine completes_succ_iff.mpr ⟨_, _, rfl, by split_ifs <;> omega, ?_⟩
    refine completes_succ_iff.mpr ⟨_, _, rfl, by omega, ?_⟩
    refine completes_one_iff.mpr ⟨_, rfl, by omega, congrArg Char.ofNat ?_⟩
    omega

theorem start_eq_of_snd (h : (start b).2 = some p) : start b = ([], some p) := by
  unfold start at h ⊢
  split_ifs at h ⊢ <;> simp_all

@[simp] theorem encode_cons (c : Char) (cs : List Char) :
    encode (c :: cs) = encodeChar c ++ encode cs := rfl

theorem encodeChar_of_ascii (h : c.toNat < 0x80) : encodeChar c = [c.toNat] := by
  rw [encodeChar, if_pos h]

theorem encodeChar_append (c : Char) (rest : List Nat) :
    decode (encodeChar c ++ rest) = c :: decode rest ∧
      isWhole (encodeChar c ++ rest) = isWhole rest := by
  by_cases hascii : c.toNat < 0x80
  · rw [encodeChar_of_ascii hascii]
    simp [decode, decodeFrom, step, isWhole, isWholeFrom, start, hascii, Char.ofNat_toNat]
  · obtain ⟨b, p, tail, hcode, hstart, hcompletes⟩ := exists_start c (by omega)
    have hb : ¬b < 0x80 := by
      rcases start_eq_some_iff.mp hstart with ⟨hb, -⟩ | ⟨hb, -⟩ | ⟨hb, -⟩ <;> omega
    rw [hcode, List.cons_append]
    constructor
    · rw [decode, decodeFrom, step, hstart, hcompletes.decodeFrom_append, List.nil_append]
    · simp [isWhole, isWholeFrom, hstart, hcompletes.isWholeFrom_append]

/-- Decoding gives back every encoded text. -/
theorem decode_encode (cs : List Char) : decode (encode cs) = cs := by
  induction cs with
  | nil => rfl
  | cons c cs ih => rw [encode_cons, (encodeChar_append c _).1, ih]

theorem isWhole_encode (cs : List Char) : isWhole (encode cs) := by
  induction cs with
  | nil => rfl
  | cons c cs ih => rw [encode_cons, (encodeChar_append c _).2, ih]

theorem exists_encode_of_isWhole (octets : List Nat) (h : isWhole octets) :
    ∃ cs, octets = encode cs := by
  match octets with
  | [] => exact ⟨[], rfl⟩
  | b :: octets =>
    simp only [isWhole, isWholeFrom, Bool.and_eq_true, Bool.or_eq_true, decide_eq_true_eq] at h
    obtain ⟨hb, hwhole⟩ := h
    by_cases hascii : b < 0x80
    · rw [start, if_pos hascii] at hwhole
      obtain ⟨cs, rfl⟩ := exists_encode_of_isWhole octets hwhole
      have hcode : encodeChar (Char.ofNat b) = [b] := by
        rw [encodeChar_of_ascii (by rw [toNat_ofNat (by omega)]; exact hascii),
          toNat_ofNat (by omega)]
      exact ⟨Char.ofNat b :: cs, by rw [encode_cons, hcode]; rfl⟩
    · obtain ⟨p, hp⟩ := Option.isSome_iff_exists.mp (hb.resolve_left hascii)
      rw [hp] at hwhole
      obtain ⟨tail, c, rest, rfl, hcompletes, hrest⟩ := exists_completes hwhole
      obtain ⟨cs, rfl⟩ := exists_encode_of_isWhole rest hrest
      refine ⟨c :: cs, ?_⟩
      rw [encode_cons, encodeChar_eq_of_completes (start_eq_of_snd hp) hcompletes]
      rfl
termination_by octets.length
decreasing_by
  · simp_all
  · simp_all only [List.length_cons, List.length_append]
    omega

/-- The octets that are whole characters are those of the texts. -/
theorem isWhole_iff : isWhole octets ↔ ∃ cs, octets = encode cs := by
  constructor
  · exact exists_encode_of_isWhole octets
  · rintro ⟨cs, rfl⟩
    exact isWhole_encode cs

end Utf8

end DesignRules.Text
