import DesignRules.Address.Size
import DesignRules.Proofs.Numeral.Runs
import Mathlib.Algebra.Order.Floor.Semifield
import Mathlib.Data.Rat.Floor

/-! # Reading sizes

Every text is read as a size: as the whole number of bytes in what it writes if it has the form of
a size, and as nothing otherwise. Only a size with a run of too many digits is not read.
-/

namespace DesignRules.Address

open Numeral

/-- The units that a size may name and the bytes in each of them. -/
def units : List (String × ℕ) :=
  [("", 1), ("B", 1), ("KB", 1024), ("MB", 1024 ^ 2), ("GB", 1024 ^ 3), ("TB", 1024 ^ 4)]

/-- The characters are digits, perhaps a point and more digits, perhaps white space and perhaps a
unit, and the size has these parts. -/
inductive Writes : List Char → SizeText → Prop
  | whole {digits gap : List Char} {unit : String} {factor : ℕ}
      (hdigits : IsRun Text.digitValue? digits) (hgap : ∀ c ∈ gap, Text.isBlank c)
      (hunit : (unit, factor) ∈ units) :
      Writes (digits ++ (gap ++ unit.toList)) ⟨digits, [], factor⟩
  | fractional {digits fraction gap : List Char} {unit : String} {factor : ℕ}
      (hdigits : IsRun Text.digitValue? digits) (hfraction : IsRun Text.digitValue? fraction)
      (hgap : ∀ c ∈ gap, Text.isBlank c) (hunit : (unit, factor) ∈ units) :
      Writes (digits ++ '.' :: (fraction ++ (gap ++ unit.toList))) ⟨digits, fraction, factor⟩

namespace SizeText

/-- The exact number before the unit. -/
def number (t : SizeText) : ℚ :=
  placeValue Text.digitValue? 10 t.whole +
    (placeValue Text.digitValue? 10 t.fraction : ℚ) / 10 ^ t.fraction.length

/-- No run of digits is too long to be read. -/
def IsReadable (t : SizeText) : Prop :=
  t.whole.length ≤ digitLimit ∧ t.fraction.length ≤ digitLimit

end SizeText

variable {cs gap rest : List Char} {unit : String} {factor : ℕ} {t : SizeText}

/-! ## Units -/

theorem unitSize?_toList (h : (unit, factor) ∈ units) : unitSize? unit.toList = some factor := by
  simp only [units, List.mem_cons, Prod.mk.injEq, List.not_mem_nil, or_false] at h
  rcases h with ⟨rfl, rfl⟩ | ⟨rfl, rfl⟩ | ⟨rfl, rfl⟩ | ⟨rfl, rfl⟩ | ⟨rfl, rfl⟩ | ⟨rfl, rfl⟩ <;> rfl

theorem exists_unit_of_unitSize? (h : unitSize? cs = some factor) :
    ∃ unit, (unit, factor) ∈ units ∧ unit.toList = cs := by
  refine ⟨String.ofList cs, ?_, String.toList_ofList⟩
  unfold unitSize? at h
  split at h
  case h_7 => cases h
  all_goals
    obtain rfl := Option.some.inj h
    decide

/-- A unit starts with a letter. -/
theorem head?_unit (h : (unit, factor) ∈ units) : ∀ c ∈ unit.toList.head?,
    Text.isBlank c = false ∧ Text.isDigit c = false ∧ c ≠ '.' := by
  have hunits : units.all fun u => u.1.toList.head?.all fun c =>
      !Text.isBlank c && !Text.isDigit c && c != '.' := by decide
  intro c hc
  have hletter := List.all_eq_true.mp hunits _ h
  rw [Option.mem_def.mp hc] at hletter
  simpa [and_assoc] using hletter

theorem not_isDigit_of_isBlank {c : Char} (h : Text.isBlank c) : Text.isDigit c = false := by
  by_contra hdigit
  rw [Bool.not_eq_false] at hdigit
  exact absurd (Text.not_isBlank_of_isDigit hdigit) (by simp [h])

/-- What follows the digits of a size neither goes on with them nor has a point. -/
theorem head?_gap_unit (hgap : ∀ c ∈ gap, Text.isBlank c) (h : (unit, factor) ∈ units) :
    ∀ c ∈ (gap ++ unit.toList).head?, Text.isDigit c = false ∧ c ≠ '.' := by
  cases gap with
  | nil => exact fun c hc => (head?_unit h c hc).2
  | cons b gap =>
    intro c hc
    obtain rfl : b = c := Option.some_inj.mp hc
    have hblank := hgap b List.mem_cons_self
    refine ⟨not_isDigit_of_isBlank hblank, ?_⟩
    rintro rfl
    exact absurd hblank (by decide)

/-! ## Parts -/

theorem takeFraction_of_head? (h : ∀ c ∈ cs.head?, c ≠ '.') : takeFraction cs = ([], cs) := by
  unfold takeFraction
  split
  case h_1 rest => exact absurd rfl (h '.' rfl)
  case h_2 => rfl

theorem takeFraction_point {fraction : List Char} (hfraction : IsRun Text.digitValue? fraction)
    (h : ∀ c ∈ rest.head?, Text.isDigit c = false) :
    takeFraction ('.' :: (fraction ++ rest)) = (fraction, rest) := by
  have htake : (fraction ++ rest).takeWhile Text.isDigit = fraction :=
    takeWhile_append_of_head? hfraction.2 h
  have hdrop : (fraction ++ rest).dropWhile Text.isDigit = rest :=
    dropWhile_append_of_head? hfraction.2 h
  have hne : fraction.isEmpty = false := by simpa using hfraction.1
  rw [takeFraction, htake, hdrop, hne]
  rfl

theorem isRun_takeWhile (h : cs.takeWhile Text.isDigit ≠ []) :
    IsRun Text.digitValue? (cs.takeWhile Text.isDigit) :=
  ⟨h, fun c hc => List.all_eq_true.mp List.all_takeWhile c hc⟩

theorem takeFraction_cases (cs : List Char) : takeFraction cs = ([], cs) ∨
    ∃ fraction rest, IsRun Text.digitValue? fraction ∧ cs = '.' :: (fraction ++ rest) ∧
      takeFraction cs = (fraction, rest) := by
  unfold takeFraction
  split
  case h_1 rest =>
    split
    case isTrue => exact .inl rfl
    case isFalse h =>
      refine .inr ⟨_, _, isRun_takeWhile (by simpa using h), ?_, rfl⟩
      rw [List.takeWhile_append_dropWhile]
  case h_2 => exact .inl rfl

theorem parts?_eq (cs : List Char) : parts? cs =
    if (cs.takeWhile Text.isDigit).isEmpty then none
    else (unitSize? ((takeFraction (cs.dropWhile Text.isDigit)).2.dropWhile Text.isBlank)).map
      (SizeText.mk (cs.takeWhile Text.isDigit) (takeFraction (cs.dropWhile Text.isDigit)).1) :=
  rfl

theorem parts?_of_writes (h : Writes cs t) : parts? cs = some t := by
  rw [parts?_eq]
  cases h with
  | @whole digits gap unit factor hdigits hgap hunit =>
    have hall : ∀ c ∈ digits, Text.isDigit c := hdigits.2
    have hhead := head?_gap_unit hgap hunit
    rw [takeWhile_append_of_head? hall fun c hc => (hhead c hc).1,
      dropWhile_append_of_head? hall fun c hc => (hhead c hc).1,
      takeFraction_of_head? fun c hc => (hhead c hc).2,
      dropWhile_append_of_head? hgap fun c hc => (head?_unit hunit c hc).1,
      unitSize?_toList hunit, if_neg (by simpa using hdigits.1)]
    rfl
  | @fractional digits fraction gap unit factor hdigits hfraction hgap hunit =>
    have hall : ∀ c ∈ digits, Text.isDigit c := hdigits.2
    have hpoint : ∀ c ∈ ('.' :: (fraction ++ (gap ++ unit.toList))).head?,
        Text.isDigit c = false := by simpa using by decide
    rw [takeWhile_append_of_head? hall hpoint, dropWhile_append_of_head? hall hpoint,
      takeFraction_point hfraction fun c hc => (head?_gap_unit hgap hunit c hc).1,
      dropWhile_append_of_head? hgap fun c hc => (head?_unit hunit c hc).1,
      unitSize?_toList hunit, if_neg (by simpa using hdigits.1)]
    rfl

theorem writes_of_parts? (h : parts? cs = some t) : Writes cs t := by
  rw [parts?_eq] at h
  split at h
  case isTrue => cases h
  case isFalse hdigits =>
    have hrun := isRun_takeWhile (by simpa using hdigits)
    obtain ⟨factor, hfactor, rfl⟩ := Option.map_eq_some_iff.mp h
    obtain ⟨unit, hunit, hrest⟩ := exists_unit_of_unitSize? hfactor
    have hgap {l : List Char} : ∀ c ∈ l.takeWhile Text.isBlank, Text.isBlank c := fun c hc =>
      List.all_eq_true.mp List.all_takeWhile c hc
    have hsplit {l : List Char} (hl : l.dropWhile Text.isBlank = unit.toList) :
        l = l.takeWhile Text.isBlank ++ unit.toList := by
      rw [← hl, List.takeWhile_append_dropWhile]
    rcases takeFraction_cases (cs.dropWhile Text.isDigit) with
      hnone | ⟨fraction, rest, hfraction, htail, hsome⟩
    · rw [hnone] at hrest ⊢
      have hwrites := Writes.whole hrun (hgap (l := cs.dropWhile Text.isDigit)) hunit
      rwa [← hsplit hrest.symm, List.takeWhile_append_dropWhile] at hwrites
    · rw [hsome] at hrest ⊢
      have hwrites := Writes.fractional hrun hfraction (hgap (l := rest)) hunit
      rwa [← hsplit hrest.symm, ← htail, List.takeWhile_append_dropWhile] at hwrites

theorem parts?_eq_some_iff : parts? cs = some t ↔ Writes cs t :=
  ⟨writes_of_parts?, parts?_of_writes⟩

/-! ## Bytes -/

theorem value_eq_placeValue (ds : List Char) :
    SizeText.value ds = placeValue Text.digitValue? 10 ds := by
  rw [SizeText.value, ofDigits_eq, placeValue, List.map_reverse]

theorem placeValue_append (ds es : List Char) : placeValue Text.digitValue? 10 (ds ++ es) =
    placeValue Text.digitValue? 10 ds * 10 ^ es.length + placeValue Text.digitValue? 10 es := by
  simp only [placeValue, List.reverse_append, List.map_append, Nat.ofDigits_append,
    List.length_map, List.length_reverse]
  ring

/-- The number of bytes is what is written, rounded down. -/
theorem bytes_eq_floor (t : SizeText) : t.bytes = ⌊t.number * t.unit⌋₊ := by
  have hexact : t.number * t.unit = ((SizeText.value (t.whole ++ t.fraction) * t.unit : ℕ) : ℚ) /
      (10 ^ t.fraction.length : ℕ) := by
    rw [value_eq_placeValue, placeValue_append, SizeText.number]
    push_cast
    field_simp
  rw [hexact, Nat.floor_div_eq_div]
  rfl

theorem isTooLong_iff : t.isTooLong ↔ ¬ t.IsReadable := by
  simp only [SizeText.isTooLong, SizeText.IsReadable, Bool.or_eq_true, decide_eq_true_eq]
  omega

theorem parseSize?_eq (s : String) : parseSize? s =
    (parts? (Text.upper (Text.trim s)).toList).elim (some 0) fun t =>
      if t.isTooLong then none else some t.bytes := by
  delta parseSize?
  cases parts? (Text.upper (Text.trim s)).toList <;> rfl

/-- A text is read as the size that it writes, rounded down to bytes, if its runs of digits are not
too long, and otherwise not at all. A text that writes no size has size zero. -/
theorem parseSize?_exact (s : String) :
    (∀ t, Writes (Text.upper (Text.trim s)).toList t → t.IsReadable →
      parseSize? s = some ⌊t.number * t.unit⌋₊) ∧
    (∀ t, Writes (Text.upper (Text.trim s)).toList t → ¬ t.IsReadable → parseSize? s = none) ∧
    ((∀ t, ¬ Writes (Text.upper (Text.trim s)).toList t) → parseSize? s = some 0) := by
  simp only [← parts?_eq_some_iff, ← bytes_eq_floor, parseSize?_eq]
  refine ⟨fun t ht hreadable => ?_, fun t ht hlong => ?_, fun hnone => ?_⟩
  · rw [ht, Option.elim_some, if_neg fun h => isTooLong_iff.mp h hreadable]
  · rw [ht, Option.elim_some, if_pos (isTooLong_iff.mpr hlong)]
  · rw [Option.eq_none_iff_forall_ne_some.mpr hnone, Option.elim_none]

theorem parseSize?_threeHalves :
    (Writes (Text.upper (Text.trim " 1.5 kb")).toList ⟨['1'], ['5'], 1024⟩ ∧
      SizeText.IsReadable ⟨['1'], ['5'], 1024⟩) ∧
    parseSize? " 1.5 kb" = some 1536 := by
  have hrun : IsRun Text.digitValue? ['1'] ∧ IsRun Text.digitValue? ['5'] := by simp [IsRun]; decide
  have hcleaned : (Text.upper (Text.trim " 1.5 kb")).toList =
      ['1'] ++ '.' :: (['5'] ++ ([' '] ++ "KB".toList)) := by decide +kernel
  have hwrites : Writes (Text.upper (Text.trim " 1.5 kb")).toList ⟨['1'], ['5'], 1024⟩ :=
    hcleaned ▸ .fractional hrun.1 hrun.2 (List.forall_mem_singleton.mpr rfl) (by decide)
  have hreadable : SizeText.IsReadable ⟨['1'], ['5'], 1024⟩ := ⟨by decide, by decide⟩
  refine ⟨⟨hwrites, hreadable⟩, ?_⟩
  rw [(parseSize?_exact " 1.5 kb").1 _ hwrites hreadable]
  have hvalue : placeValue Text.digitValue? 10 ['1'] = 1 ∧
      placeValue Text.digitValue? 10 ['5'] = 5 := by decide
  norm_num [SizeText.number, hvalue]

end DesignRules.Address
