import DesignRules.Proofs.Numeral.Runs

/-! # Reading address literals

Which texts are read as an address, and as which one. Around the numeral that follows the mark of
the base, and around one that underscores set off, white space is skipped again, and after the mark
a second one is. Apart from such texts, those that are read are the literals.
-/

namespace DesignRules.Address

open Numeral

variable {cs run : List Char} {n : ℤ}

/-- A hexadecimal numeral after the mark of the base, or a decimal numeral. -/
inductive Literal : List Char → ℤ → Prop
  | hexadecimal {cs : List Char} {n : ℤ} (h : IsHexadecimal [] cs n) : Literal ('0' :: 'x' :: cs) n
  | decimal {cs : List Char} {n : ℤ} (h : IsDecimal cs n) : Literal cs n

/-- A literal with white space around its numeral, or with the mark a second time. -/
inductive Readable : List Char → ℤ → Prop
  | hexadecimal {cs : List Char} {n : ℤ}
      (h : Padded isPadding
        (fun core => ∃ mark, (mark = [] ∨ IsMark mark) ∧ IsHexadecimal mark core n) cs) :
      Readable ('0' :: 'x' :: cs) n
  | decimal {cs : List Char} {n : ℤ} (h : Padded isPadding (fun core => IsDecimal core n) cs) :
      Readable cs n

def isMarkLetter (c : Char) : Bool := c == 'x' || c == 'X'

/-- There is no white space, and the letter of the base occurs at most once. -/
structure IsPlain (cs : List Char) : Prop where
  isPadding_eq_false : ∀ c ∈ cs, isPadding c = false
  countP_isMarkLetter : cs.countP isMarkLetter ≤ 1

/-! ## Characters -/

/-- Where the letter of the base is no digit, it stands in no numeral. -/
theorem countP_isMarkLetter_of_signed {digit? : Char → Option ℕ} {value : ℕ}
    (hdigit : digit? 'x' = none ∧ digit? 'X' = none) (hrun : IsRun digit? run)
    (h : Signed run value cs n) : cs.countP isMarkLetter = 0 := by
  rw [List.countP_eq_zero]
  intro c hc hletter
  rw [isMarkLetter, Bool.or_eq_true, beq_iff_eq, beq_iff_eq] at hletter
  rcases h.mem_or_mem hc with hsign | hmem
  · rcases hletter with rfl | rfl <;> revert hsign <;> decide
  · have hsome := hrun.2 c hmem
    rcases hletter with rfl | rfl <;> simp [hdigit] at hsome

theorem countP_isMarkLetter_of_isDecimal (h : IsDecimal cs n) : cs.countP isMarkLetter = 0 := by
  obtain ⟨run, hrun, -, hsigned⟩ := h
  exact countP_isMarkLetter_of_signed (by decide) hrun hsigned

theorem countP_isMarkLetter_of_isHexadecimal (h : IsHexadecimal [] cs n) :
    cs.countP isMarkLetter = 0 := by
  obtain ⟨run, hrun, hsigned⟩ := h
  exact countP_isMarkLetter_of_signed (by decide) hrun hsigned

theorem countP_isMarkLetter_pos {mark : List Char} (hmark : IsMark mark)
    (h : IsHexadecimal mark cs n) : 0 < cs.countP isMarkLetter := by
  obtain ⟨zero, letter, rfl, -, hletter⟩ := hmark
  obtain ⟨run, -, hsigned⟩ := h
  have hmem : letter ∈ cs := by cases hsigned <;> simp
  refine List.countP_pos_iff.mpr ⟨letter, hmem, ?_⟩
  rcases hletter with rfl | rfl <;> rfl

/-- A decimal numeral does not start with the mark of the base. -/
theorem not_padded_isDecimal_mark :
    ¬ Padded isPadding (fun core => IsDecimal core n) ('0' :: 'x' :: cs) := by
  rintro ⟨before, core, after, hbefore, hafter, hcs, hcore⟩
  have hmem : 'x' ∈ before ++ core ++ after := hcs ▸ by simp
  rw [List.mem_append, List.mem_append] at hmem
  rcases hmem with (hmem | hmem) | hmem
  · exact absurd (hbefore _ hmem) (by decide)
  · exact absurd (countP_isMarkLetter_of_isDecimal hcore)
      (List.countP_pos_iff.mpr ⟨'x', hmem, rfl⟩).ne'
  · exact absurd (hafter _ hmem) (by decide)

/-! ## Reading -/

theorem readCleaned?_eq_some_iff : readCleaned? cs = some n ↔ Readable cs n := by
  unfold readCleaned?
  split
  case h_1 rest =>
    rw [readHex?_eq_some_iff]
    constructor
    · exact .hexadecimal
    · intro h
      cases h with
      | hexadecimal h => exact h
      | decimal h => exact absurd h not_padded_isDecimal_mark
  case h_2 hmark =>
    rw [readDecimal?_eq_some_iff]
    constructor
    · exact .decimal
    · intro h
      cases h with
      | hexadecimal => exact absurd rfl (hmark _)
      | decimal h => exact h

theorem ofText?_eq_some_iff {s : String} : ofText? s = some n ↔ Readable (cleaned s) n :=
  readCleaned?_eq_some_iff

theorem read_text_eq_error_iff {s : String} :
    read (.text s) = .error .malformed ↔ ∀ n, ¬ Readable (cleaned s) n := by
  simp only [← ofText?_eq_some_iff, ← Option.eq_none_iff_forall_ne_some, read]
  cases ofText? s <;> simp

/-! ## Plain texts -/

theorem Literal.readable (h : Literal cs n) : Readable cs n := by
  cases h with
  | hexadecimal h => exact .hexadecimal (Padded.of_inner ⟨[], .inl rfl, h⟩)
  | decimal h => exact .decimal (Padded.of_inner h)

theorem Literal.isPlain (h : Literal cs n) : IsPlain cs := by
  cases h with
  | hexadecimal h =>
    refine ⟨?_, ?_⟩
    · have hcore := fun c hc => isPadding_eq_false
        (h.isBlank_eq_false (.inl rfl) (c := c) hc)
      exact List.forall_mem_cons.mpr ⟨rfl, List.forall_mem_cons.mpr ⟨rfl, hcore⟩⟩
    · rw [List.countP_cons_of_neg (by decide), List.countP_cons_of_pos (by decide),
        countP_isMarkLetter_of_isHexadecimal h]
  | decimal h =>
    exact ⟨fun c hc => isPadding_eq_false (h.isBlank_eq_false hc),
      (countP_isMarkLetter_of_isDecimal h).trans_le (Nat.zero_le 1)⟩

theorem Readable.literal (h : Readable cs n) (hplain : IsPlain cs) : Literal cs n := by
  cases h with
  | @hexadecimal cs n h =>
    have hpad : ∀ c ∈ cs, isPadding c = false := fun c hc =>
      hplain.isPadding_eq_false c (List.mem_cons_of_mem _ (List.mem_cons_of_mem _ hc))
    obtain ⟨mark, rfl | hmark, hcore⟩ := h.inner hpad
    · exact .hexadecimal hcore
    · -- the letter of the second mark is one too many
      have hone := hplain.countP_isMarkLetter
      rw [List.countP_cons_of_neg (by decide), List.countP_cons_of_pos (by decide)] at hone
      have hpos := countP_isMarkLetter_pos hmark hcore
      omega
  | decimal h => exact .decimal (h.inner hplain.isPadding_eq_false)

theorem literal_iff : Literal cs n ↔ Readable cs n ∧ IsPlain cs :=
  ⟨fun h => ⟨h.readable, h.isPlain⟩, fun h => h.1.literal h.2⟩

/-- A text is read as the number of the literal with white space or a second mark that its cleaned
form is. It is this literal itself exactly if it is plain, and a text that is no such literal is
refused. -/
theorem read_text_exact (s : String) :
    (∀ n, read (.text s) = .ok n ↔ Readable (cleaned s) n) ∧
    (∀ n, Literal (cleaned s) n ↔ read (.text s) = .ok n ∧ IsPlain (cleaned s)) ∧
    (read (.text s) = .error .malformed ↔ ∀ n, ¬ Readable (cleaned s) n) := by
  have hok (n : ℤ) : read (.text s) = .ok n ↔ Readable (cleaned s) n :=
    read_text_eq_ok_iff.trans ofText?_eq_some_iff
  refine ⟨hok, fun n => ?_, read_text_eq_error_iff⟩
  rw [literal_iff, hok]

/-- The mark may stand twice, white space may follow it, and an underscore may hide white space,
although these texts are no literals. -/
theorem read_text_secondMark :
    (read (.text "0x0x10") = .ok 16 ∧ ∀ n, ¬ Literal (cleaned "0x0x10") n) ∧
    (read (.text "0x 10") = .ok 16 ∧ ∀ n, ¬ Literal (cleaned "0x 10") n) ∧
    (read (.text "_ 12") = .ok 12 ∧ ∀ n, ¬ Literal (cleaned "_ 12") n) := by
  refine ⟨⟨by decide +kernel, fun n h => ?_⟩, ⟨by decide +kernel, fun n h => ?_⟩,
    ⟨by decide +kernel, fun n h => ?_⟩⟩
  · exact absurd h.isPlain.countP_isMarkLetter (by decide +kernel)
  · exact absurd (h.isPlain.isPadding_eq_false ' ' (by decide +kernel)) (by decide)
  · exact absurd (h.isPlain.isPadding_eq_false ' ' (by decide +kernel)) (by decide)

end DesignRules.Address
