import DesignRules.Proofs.Address
import Mathlib.Data.List.TakeWhile
import Mathlib.Data.Nat.Digits.Defs

/-! # Runs of digits

Which characters are read as a number, and as which one. A run of digits denotes the sum of its
digits, each times the power of the base at its place, and a minus sign stands for the negative of
it. Around a numeral there may be white space.
-/

namespace DesignRules

/-! ## Ends of a list -/

section Ends

variable {p : Char → Bool} {before cs after : List Char}

theorem dropWhile_of_head? (h : ∀ c ∈ cs.head?, p c = false) : cs.dropWhile p = cs := by
  cases cs with
  | nil => rfl
  | cons c cs => simp [h c rfl]

theorem takeWhile_append_of_head? (hbefore : ∀ c ∈ before, p c)
    (h : ∀ c ∈ cs.head?, p c = false) : (before ++ cs).takeWhile p = before := by
  have hnone : cs.takeWhile p = [] := by
    cases cs with
    | nil => rfl
    | cons c cs => simp [h c rfl]
  rw [List.takeWhile_append_of_pos hbefore, hnone, List.append_nil]

theorem dropWhile_append_of_head? (hbefore : ∀ c ∈ before, p c)
    (h : ∀ c ∈ cs.head?, p c = false) : (before ++ cs).dropWhile p = cs := by
  rw [List.dropWhile_append_of_pos hbefore, dropWhile_of_head? h]

/-- What lies between two ends is left if the ends are dropped. -/
theorem dropWhile_ends (hbefore : ∀ c ∈ before, p c) (hafter : ∀ c ∈ after, p c)
    (hfirst : ∀ c ∈ cs.head?, p c = false) (hlast : ∀ c ∈ cs.getLast?, p c = false) :
    (((before ++ cs ++ after).dropWhile p).reverse.dropWhile p).reverse = cs := by
  cases cs with
  | nil =>
    have hall : ∀ c ∈ before ++ [] ++ after, p c := by
      simpa using fun c hc => hc.elim (hbefore c) (hafter c)
    rw [List.dropWhile_eq_nil_iff.mpr hall]
    rfl
  | cons c cs =>
    have hstart : (before ++ c :: cs ++ after).dropWhile p = c :: cs ++ after := by
      rw [List.append_assoc]
      exact dropWhile_append_of_head? hbefore (by simpa using hfirst)
    rw [hstart, List.reverse_append, dropWhile_append_of_head? (by simpa using hafter)
      (by rwa [List.head?_reverse]), List.reverse_reverse]

theorem exists_ends (p : Char → Bool) (cs : List Char) : ∃ before after,
    (∀ c ∈ before, p c) ∧ (∀ c ∈ after, p c) ∧
      cs = before ++ ((cs.dropWhile p).reverse.dropWhile p).reverse ++ after := by
  have hall {l : List Char} : ∀ c ∈ l.takeWhile p, p c := fun c hc =>
    List.all_eq_true.mp List.all_takeWhile c hc
  refine ⟨cs.takeWhile p, ((cs.dropWhile p).reverse.takeWhile p).reverse, hall,
    fun c hc => hall c (List.mem_reverse.mp hc), ?_⟩
  rw [List.append_assoc, ← List.reverse_append, List.takeWhile_append_dropWhile,
    List.reverse_reverse, List.takeWhile_append_dropWhile]

/-- Once the ends are dropped, neither end goes on. -/
theorem ends_dropWhile (p : Char → Bool) (cs : List Char) :
    (∀ c ∈ ((cs.dropWhile p).reverse.dropWhile p).reverse.head?, p c = false) ∧
      ∀ c ∈ ((cs.dropWhile p).reverse.dropWhile p).reverse.getLast?, p c = false := by
  have hstop {l : List Char} {c : Char} (hc : c ∈ (l.dropWhile p).head?) : p c = false := by
    have hnot := List.head?_dropWhile_not p l
    rw [Option.mem_def.mp hc] at hnot
    simpa using hnot
  have hprefix : ((cs.dropWhile p).reverse.dropWhile p).reverse <+: cs.dropWhile p := by
    rw [← List.reverse_suffix, List.reverse_reverse]
    exact List.dropWhile_suffix p
  refine ⟨fun c hc => ?_, fun c hc => hstop (List.getLast?_reverse ▸ hc)⟩
  obtain ⟨rest, hrest⟩ := hprefix
  have hhead : c ∈ (cs.dropWhile p).head? := by
    rw [← hrest, List.head?_append, Option.mem_def.mp hc]
    rfl
  exact hstop hhead

end Ends

namespace Numeral

/-! ## Runs -/

/-- The number that digits denote by their places. -/
def placeValue (digit? : Char → Option ℕ) (base : ℕ) (cs : List Char) : ℕ :=
  Nat.ofDigits base (cs.reverse.map fun c => (digit? c).getD 0)

/-- Digits, and at least one of them. -/
def IsRun (digit? : Char → Option ℕ) (cs : List Char) : Prop :=
  cs ≠ [] ∧ ∀ c ∈ cs, (digit? c).isSome

/-- A number with an optional sign before it, and what they are together. -/
inductive Signed (run : List Char) (value : ℕ) : List Char → ℤ → Prop
  | unsigned : Signed run value run value
  | plus : Signed run value ('+' :: run) value
  | minus : Signed run value ('-' :: run) (-value)

variable {digit? : Char → Option ℕ} {base n : ℕ} {cs run : List Char} {z : ℤ}

theorem ofDigits_eq (base : ℕ) (ds : List ℕ) : ofDigits base ds = Nat.ofDigits base ds.reverse := by
  rw [ofDigits, List.foldl_eq_foldr_reverse, Nat.ofDigits_eq_foldr]
  simp [Nat.add_comm]

theorem mapM_eq_some_iff {ds : List ℕ} : cs.mapM digit? = some ds ↔
    (∀ c ∈ cs, (digit? c).isSome) ∧ cs.map (fun c => (digit? c).getD 0) = ds := by
  induction cs generalizing ds with
  | nil => simp
  | cons c cs ih =>
    rw [List.mapM_cons, List.forall_mem_cons, List.map_cons]
    cases hc : digit? c with
    | none => simp
    | some d =>
      cases hcs : cs.mapM digit? with
      | none =>
        have hnone : ¬ ∀ c ∈ cs, (digit? c).isSome := fun h =>
          nomatch hcs.symm.trans (ih.mpr ⟨h, rfl⟩)
        simp [hnone]
      | some rest =>
        obtain ⟨hall, rfl⟩ := ih.mp hcs
        simpa using fun _ => hall

theorem run?_eq_some_iff :
    run? digit? base cs = some n ↔ IsRun digit? cs ∧ placeValue digit? base cs = n := by
  have hvalue : ofDigits base (cs.map fun c => (digit? c).getD 0) = placeValue digit? base cs := by
    rw [ofDigits_eq, placeValue, List.map_reverse]
  unfold run? IsRun
  cases cs with
  | nil => simp
  | cons c cs =>
    simp only [List.isEmpty_cons, Bool.false_eq_true, if_false, Option.map_eq_some_iff,
      mapM_eq_some_iff, ne_eq, reduceCtorEq, not_false_eq_true, true_and, ← hvalue]
    grind

theorem decimalRun?_eq_some_iff : decimalRun? cs = some n ↔
    IsRun Text.digitValue? cs ∧ cs.length ≤ digitLimit ∧
      placeValue Text.digitValue? 10 cs = n := by
  unfold decimalRun?
  split
  case isTrue h => rw [run?_eq_some_iff, and_iff_right h]
  case isFalse h => simp [h]

/-- What starts with a sign is no run. -/
theorem not_isRun_sign {digit? : Char → Option ℕ} (h : digit? '+' = none ∧ digit? '-' = none)
    (cs : List Char) : ¬ IsRun digit? ('+' :: cs) ∧ ¬ IsRun digit? ('-' :: cs) := by
  simp [IsRun, h]

theorem signed?_eq_some_iff {read : List Char → Option ℕ}
    (hread : ∀ cs, read ('+' :: cs) = none ∧ read ('-' :: cs) = none) :
    signed? read cs = some z ↔ ∃ run n, read run = some n ∧ Signed run n cs z := by
  constructor
  · intro h
    unfold signed? at h
    split at h
    case h_1 rest =>
      obtain ⟨n, hn, rfl⟩ : ∃ n, read rest = some n ∧ -(n : ℤ) = z := by
        simpa [Option.bind_eq_some_iff] using h
      exact ⟨rest, n, hn, .minus⟩
    case h_2 rest =>
      obtain ⟨n, hn, rfl⟩ : ∃ n, read rest = some n ∧ (n : ℤ) = z := by
        simpa [Option.bind_eq_some_iff] using h
      exact ⟨rest, n, hn, .plus⟩
    case h_3 =>
      obtain ⟨n, hn, rfl⟩ : ∃ n, read cs = some n ∧ (n : ℤ) = z := by
        simpa [Option.bind_eq_some_iff] using h
      exact ⟨cs, n, hn, .unsigned⟩
  · rintro ⟨run, n, hn, hsigned⟩
    cases hsigned with
    | plus => simp [signed?, hn]
    | minus => simp [signed?, hn]
    | unsigned =>
      unfold signed?
      split
      · simp [(hread _).2] at hn
      · simp [(hread _).1] at hn
      · simp [hn]

/-! ## Numerals -/

/-- A decimal numeral that is not too long to be read. -/
def IsDecimal (cs : List Char) (z : ℤ) : Prop :=
  ∃ run, IsRun Text.digitValue? run ∧ run.length ≤ digitLimit ∧
    Signed run (placeValue Text.digitValue? 10 run) cs z

/-- A hexadecimal numeral with the mark of the base after its sign, or with none. -/
def IsHexadecimal (mark cs : List Char) (z : ℤ) : Prop :=
  ∃ run, IsRun hexDigitBelow? run ∧
    Signed (mark ++ run) (placeValue hexDigitBelow? 16 run) cs z

/-- A zero and the letter of the base. -/
def IsMark (mark : List Char) : Prop :=
  ∃ zero letter, mark = [zero, letter] ∧ Text.digitValue? zero = some 0 ∧
    (letter = 'x' ∨ letter = 'X')

theorem signed?_decimalRun?_eq_some_iff : signed? decimalRun? cs = some z ↔ IsDecimal cs z := by
  have hsigns : Text.digitValue? '+' = none ∧ Text.digitValue? '-' = none := by decide
  have hsign (cs : List Char) :
      decimalRun? ('+' :: cs) = none ∧ decimalRun? ('-' :: cs) = none := by
    obtain ⟨hplus, hminus⟩ := not_isRun_sign hsigns cs
    simp [Option.eq_none_iff_forall_ne_some, decimalRun?_eq_some_iff, hplus, hminus]
  rw [signed?_eq_some_iff hsign, IsDecimal]
  simp only [decimalRun?_eq_some_iff]
  grind

theorem hexRun?_eq_some_iff : run? (fun c => (hexDigit? c).filter (· < 16)) 16 cs = some n ↔
    IsRun hexDigitBelow? cs ∧ placeValue hexDigitBelow? 16 cs = n :=
  run?_eq_some_iff

theorem IsMark.not_isRun_append {mark rest : List Char} (h : IsMark mark) :
    ¬ IsRun hexDigitBelow? (mark ++ rest) := by
  obtain ⟨zero, letter, rfl, -, hletter⟩ := h
  rintro ⟨-, hdigits⟩
  have hnone : hexDigitBelow? letter = none := by
    rcases hletter with rfl | rfl <;> decide
  simpa [hnone] using hdigits letter (by simp)

theorem markedRun?_of_isMark {mark rest : List Char} (h : IsMark mark) :
    markedRun? 16 'x' (mark ++ rest) = run? (fun c => (hexDigit? c).filter (· < 16)) 16 rest := by
  obtain ⟨zero, letter, rfl, hzero, hletter⟩ := h
  exact if_pos ⟨hzero, hletter⟩

theorem markedRun?_of_not_isMark (h : ∀ mark rest, IsMark mark → cs ≠ mark ++ rest) :
    markedRun? 16 'x' cs = run? (fun c => (hexDigit? c).filter (· < 16)) 16 cs := by
  unfold markedRun?
  split
  case h_1 zero letter rest =>
    exact if_neg fun hmark => h _ rest ⟨zero, letter, rfl, hmark⟩ rfl
  case h_2 => rfl

theorem markedRun?_eq_some_iff : markedRun? 16 'x' cs = some n ↔
    ∃ mark run, (mark = [] ∨ IsMark mark) ∧ cs = mark ++ run ∧ IsRun hexDigitBelow? run ∧
      placeValue hexDigitBelow? 16 run = n := by
  by_cases hmarked : ∃ mark rest, IsMark mark ∧ cs = mark ++ rest
  · obtain ⟨mark, rest, hmark, rfl⟩ := hmarked
    rw [markedRun?_of_isMark hmark, hexRun?_eq_some_iff]
    constructor
    · exact fun h => ⟨mark, rest, .inr hmark, rfl, h⟩
    · rintro ⟨other, run, rfl | hother, hcs, hrun⟩
      · obtain rfl : mark ++ rest = run := hcs
        exact absurd hrun.1 hmark.not_isRun_append
      · -- both marks have two characters
        obtain ⟨_, _, rfl, -⟩ := hmark
        obtain ⟨_, _, rfl, -⟩ := hother
        obtain ⟨-, hcs⟩ := List.append_inj hcs rfl
        exact hcs ▸ hrun
  · have hnone : ∀ mark rest, IsMark mark → cs ≠ mark ++ rest := fun mark rest hmark hcs =>
      hmarked ⟨mark, rest, hmark, hcs⟩
    rw [markedRun?_of_not_isMark hnone, hexRun?_eq_some_iff]
    constructor
    · exact fun h => ⟨[], cs, .inl rfl, rfl, h⟩
    · rintro ⟨mark, run, rfl | hmark, hcs, hrun⟩
      · exact hcs ▸ hrun
      · exact absurd hcs (hnone mark run hmark)

theorem signed?_markedRun?_eq_some_iff : signed? (markedRun? 16 'x') cs = some z ↔
    ∃ mark, (mark = [] ∨ IsMark mark) ∧ IsHexadecimal mark cs z := by
  have hsigns : hexDigitBelow? '+' = none ∧ hexDigitBelow? '-' = none := by decide
  have hsign (cs : List Char) :
      markedRun? 16 'x' ('+' :: cs) = none ∧ markedRun? 16 'x' ('-' :: cs) = none := by
    obtain ⟨hplus, hminus⟩ := not_isRun_sign hsigns cs
    have hmark (sign : Char) (h : Text.digitValue? sign = none) :
        ∀ mark rest, IsMark mark → sign :: cs ≠ mark ++ rest := by
      rintro _ rest ⟨zero, letter, rfl, hzero, -⟩ hcs
      obtain ⟨rfl, -⟩ := List.cons.inj hcs
      simp [h] at hzero
    constructor
    · rw [markedRun?_of_not_isMark (hmark '+' rfl), Option.eq_none_iff_forall_ne_some]
      exact fun n hn => hplus (hexRun?_eq_some_iff.mp hn).1
    · rw [markedRun?_of_not_isMark (hmark '-' rfl), Option.eq_none_iff_forall_ne_some]
      exact fun n hn => hminus (hexRun?_eq_some_iff.mp hn).1
  rw [signed?_eq_some_iff hsign]
  simp only [markedRun?_eq_some_iff, IsHexadecimal]
  constructor
  · rintro ⟨_, _, ⟨mark, run, hmark, rfl, hrun, rfl⟩, hsigned⟩
    exact ⟨mark, hmark, run, hrun, hsigned⟩
  · rintro ⟨mark, hmark, run, hrun, hsigned⟩
    exact ⟨_, _, ⟨mark, run, hmark, rfl, hrun, rfl⟩, hsigned⟩

/-! ## White space around a numeral -/

/-- Between two ends of a kind of characters lies what has a property. -/
def Padded (pad : Char → Bool) (inner : List Char → Prop) (cs : List Char) : Prop :=
  ∃ before core after, (∀ c ∈ before, pad c) ∧ (∀ c ∈ after, pad c) ∧
    cs = before ++ core ++ after ∧ inner core

/-- Trimming finds what lies between the ends, if it holds none of their characters. -/
theorem padded_iff {pad : Char → Bool} {inner : List Char → Prop}
    (h : ∀ core, inner core → ∀ c ∈ core, pad c = false) :
    Padded pad inner cs ↔ inner ((cs.dropWhile pad).reverse.dropWhile pad).reverse := by
  constructor
  · rintro ⟨before, core, after, hbefore, hafter, rfl, hcore⟩
    rwa [dropWhile_ends hbefore hafter fun c hc => h core hcore c (List.mem_of_mem_head? hc)]
    exact fun c hc => h core hcore c (List.mem_of_mem_getLast? hc)
  · intro hcore
    obtain ⟨before, after, hbefore, hafter, hcs⟩ := exists_ends pad cs
    exact ⟨before, _, after, hbefore, hafter, hcs, hcore⟩

theorem Padded.of_inner {pad : Char → Bool} {inner : List Char → Prop} (h : inner cs) :
    Padded pad inner cs :=
  ⟨[], cs, [], by simp, by simp, by simp, h⟩

theorem Padded.inner {pad : Char → Bool} {inner : List Char → Prop} (h : Padded pad inner cs)
    (hpad : ∀ c ∈ cs, pad c = false) : inner cs := by
  obtain ⟨before, core, after, hbefore, hafter, rfl, hcore⟩ := h
  have hnil {l : List Char} (hl : ∀ c ∈ l, pad c) (hfalse : ∀ c ∈ l, pad c = false) : l = [] :=
    List.eq_nil_iff_forall_not_mem.mpr fun c hc => by simpa [hfalse c hc] using hl c hc
  obtain rfl := hnil hbefore fun c hc => hpad c (by simp [hc])
  obtain rfl := hnil hafter fun c hc => hpad c (by simp [hc])
  simpa using hcore

theorem isPadding_eq_false {c : Char} (h : Text.isBlank c = false) : isPadding c = false := by
  rw [isPadding, h, Bool.false_and]

theorem Signed.mem_or_mem {value : ℕ} (h : Signed run value cs z) {c : Char} (hc : c ∈ cs) :
    (c = '+' ∨ c = '-') ∨ c ∈ run := by
  cases h <;> grind

/-- No character of a numeral is white space. -/
theorem IsDecimal.isBlank_eq_false (h : IsDecimal cs z) {c : Char} (hc : c ∈ cs) :
    Text.isBlank c = false := by
  obtain ⟨run, ⟨-, hrun⟩, -, hsigned⟩ := h
  rcases hsigned.mem_or_mem hc with (rfl | rfl) | hc
  · rfl
  · rfl
  · exact Text.not_isBlank_of_isDigit (hrun c hc)

theorem isBlank_eq_false_of_isSome_hexLetter? {c : Char} (h : (hexLetter? c).isSome) :
    Text.isBlank c = false := by
  have hcode : 0x41 ≤ c.toNat ∧ c.toNat ≤ 0x66 := by
    unfold hexLetter? at h
    split at h
    case isTrue hsmall => exact ⟨Nat.le_trans (by decide) hsmall.1, hsmall.2⟩
    case isFalse =>
      split at h
      case isTrue hcapital => exact ⟨hcapital.1, Nat.le_trans hcapital.2 (by decide)⟩
      case isFalse => cases h
  simp only [Text.isBlank, Bool.or_eq_false_iff, Bool.and_eq_false_iff, decide_eq_false_iff_not,
    beq_eq_false_iff_ne]
  omega

theorem IsHexadecimal.isBlank_eq_false {mark : List Char} (hmark : mark = [] ∨ IsMark mark)
    (h : IsHexadecimal mark cs z) {c : Char} (hc : c ∈ cs) : Text.isBlank c = false := by
  obtain ⟨run, ⟨-, hrun⟩, hsigned⟩ := h
  rcases hsigned.mem_or_mem hc with (rfl | rfl) | hc
  · rfl
  · rfl
  rcases List.mem_append.mp hc with hc | hc
  · obtain rfl | ⟨zero, letter, rfl, hzero, hletter⟩ := hmark
    · cases hc
    · rcases List.mem_pair.mp hc with rfl | rfl
      · exact Text.not_isBlank_of_isDigit (by rw [Text.isDigit, hzero]; rfl)
      · rcases hletter with rfl | rfl <;> rfl
  · have hdigit : (hexDigit? c).isSome := by
      have hsome := hrun c hc
      rw [hexDigitBelow?, Option.isSome_filter] at hsome
      exact Option.isSome_of_any hsome
    cases hdecimal : Text.digitValue? c with
    | some d => exact Text.not_isBlank_of_isDigit (by rw [Text.isDigit, hdecimal]; rfl)
    | none =>
      rw [hexDigit?, hdecimal] at hdigit
      exact isBlank_eq_false_of_isSome_hexLetter? hdigit

theorem readDecimal?_eq_some_iff :
    readDecimal? cs = some z ↔ Padded isPadding (fun core => IsDecimal core z) cs := by
  rw [readDecimal?, signed?_decimalRun?_eq_some_iff, padded_iff, trimPadding]
  exact fun core hcore c hc => isPadding_eq_false (hcore.isBlank_eq_false hc)

theorem readHex?_eq_some_iff : readHex? cs = some z ↔
    Padded isPadding (fun core => ∃ mark, (mark = [] ∨ IsMark mark) ∧ IsHexadecimal mark core z)
      cs := by
  rw [readHex?, readMarked?, signed?_markedRun?_eq_some_iff, padded_iff, trimPadding]
  rintro core ⟨mark, hmark, hcore⟩ c hc
  exact isPadding_eq_false (hcore.isBlank_eq_false hmark hc)

end Numeral

end DesignRules
