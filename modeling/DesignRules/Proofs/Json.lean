import DesignRules.Interface.Width
import DesignRules.Proofs.Fields
import DesignRules.Proofs.Schema.Acceptance

/-! # JSON values

Values as they come from JSON, without numbers that are too long to be read or written.
Each of them can be displayed, and each of them is taken as a width.
-/

namespace DesignRules

namespace Text

theorem exists_digitZero {c : Char} (h : isDigit c) :
    ∃ z ∈ digitZeros, ∃ k < 10, c = Char.ofNat (z + k) := by
  have hrange : ∃ z ∈ digitZeros, z ≤ c.toNat ∧ c.toNat < z + 10 := by
    unfold isDigit digitValue? at h
    split at h
    · split at h
      case isTrue hascii => exact ⟨0x30, List.mem_cons_self, hascii.1, Nat.lt_succ_of_le hascii.2⟩
      case isFalse => cases h
    · rw [Option.isSome_map, List.find?_isSome] at h
      simpa using h
  obtain ⟨z, hz, hle, hlt⟩ := hrange
  refine ⟨z, hz, c.toNat - z, by omega, ?_⟩
  rw [Nat.add_sub_cancel' hle, Char.ofNat_toNat]

theorem not_isBlank_of_isDigit {c : Char} (h : isDigit c) : isBlank c = false := by
  have hzeros : ∀ z ∈ digitZeros, ∀ k < 10, isBlank (Char.ofNat (z + k)) = false := by
    decide +kernel
  obtain ⟨z, hz, k, hk, rfl⟩ := exists_digitZero h
  exact hzeros z hz k hk

theorem dropWhile_eq_self {p : Char → Bool} {cs : List Char} (h : ∀ c ∈ cs, p c = false) :
    cs.dropWhile p = cs := by
  cases cs with
  | nil => rfl
  | cons c cs => simp [h c List.mem_cons_self]

theorem trimChars_eq_self {cs : List Char} (h : ∀ c ∈ cs, isBlank c = false) :
    trimChars cs = cs := by
  rw [trimChars, trimEnd, dropWhile_eq_self h, dropWhile_eq_self (by simpa using h),
    List.reverse_reverse]

/-- What starts with no blank still does so when it is trimmed. -/
theorem exists_trimChars_eq {c : Char} (cs : List Char) (h : isBlank c = false) :
    ∃ rest, trimChars (c :: cs) = c :: rest := by
  have hstart : (c :: cs).dropWhile isBlank = c :: cs := by simp [h]
  rw [trimChars, hstart, trimEnd, List.reverse_cons, List.dropWhile_append]
  split <;> simp [h]

end Text

theorem Width.eq_sign_or_mem_unsignedPart {cs : List Char} {c : Char} (h : c ∈ cs) :
    c = '-' ∨ c = '+' ∨ c ∈ Width.unsignedPart cs := by
  unfold Width.unsignedPart
  split <;> grind

namespace Numeral

variable {cs : List Char}

theorem isSome_signed? {read : List Char → Option Nat} :
    (signed? read cs).isSome = (read (Width.unsignedPart cs)).isSome := by
  have hcast (o : Option Nat) : (do return ((← o : Nat) : Int) : Option Int).isSome = o.isSome := by
    cases o <;> rfl
  unfold signed? Width.unsignedPart
  split <;> simp only [Option.isSome_map] <;> exact hcast _

theorem isSome_mapM {f : Char → Option Nat} (h : ∀ c ∈ cs, (f c).isSome) : (cs.mapM f).isSome := by
  induction cs with
  | nil => rfl
  | cons c cs ih =>
    obtain ⟨⟨n, hn⟩, hrest⟩ : (∃ n, f c = some n) ∧ ∀ c ∈ cs, (f c).isSome := by
      simpa [Option.isSome_iff_exists] using h
    obtain ⟨ns, hns⟩ := Option.isSome_iff_exists.mp (ih hrest)
    simp [hn, hns]

theorem isSome_decimalRun? (hne : cs ≠ []) (hdigits : ∀ c ∈ cs, Text.isDigit c)
    (hlength : cs.length ≤ digitLimit) : (decimalRun? cs).isSome := by
  have hempty : cs.isEmpty = false := by simpa using hne
  simp [decimalRun?, hlength, run?, hempty, isSome_mapM hdigits]

theorem trimPadding_eq_self (h : ∀ c ∈ cs, isPadding c = false) : trimPadding cs = cs := by
  rw [trimPadding, Text.dropWhile_eq_self h, Text.dropWhile_eq_self (by simpa using h),
    List.reverse_reverse]

/-- A text for an integer is read unless it has too many digits. -/
theorem isSome_readDecimal? (h : Width.isIntegerText cs)
    (hlength : (Width.unsignedPart cs).length ≤ digitLimit) : (readDecimal? cs).isSome := by
  obtain ⟨hne, hdigits⟩ : Width.unsignedPart cs ≠ [] ∧
      ∀ c ∈ Width.unsignedPart cs, Text.isDigit c := by
    simpa [Width.isIntegerText] using h
  have hpadding : ∀ c ∈ cs, isPadding c = false := by
    intro c hc
    rcases Width.eq_sign_or_mem_unsignedPart hc with rfl | rfl | hc
    · rfl
    · rfl
    · simp [isPadding, Text.not_isBlank_of_isDigit (hdigits c hc)]
  rw [readDecimal?, trimPadding_eq_self hpadding, isSome_signed?]
  exact isSome_decimalRun? hne hdigits hlength

end Numeral

namespace Width

/-- The text stands for an integer of more digits than are read. -/
def IsOversized (s : String) : Prop :=
  isIntegerText (Text.trimChars s.toList) ∧
    Numeral.digitLimit < (unsignedPart (Text.trimChars s.toList)).length

instance : DecidablePred IsOversized := fun _ => inferInstanceAs (Decidable (_ ∧ _))

end Width

namespace Datum

theorem areWritable_iff {items : List Datum} :
    areWritable items ↔ ∀ item ∈ items, item.isWritable := by
  induction items with
  | nil => simp [areWritable]
  | cons item items ih => simp [areWritable, ih]

theorem fieldsAreWritable_iff {given : Fields} :
    fieldsAreWritable given ↔ ∀ field ∈ given, field.1.isWritable ∧ field.2.isWritable := by
  induction given with
  | nil => simp [fieldsAreWritable]
  | cons field given ih => simp [fieldsAreWritable, ih]

/-- Null, flags, numbers and texts, and lists and objects of such values. The keys of objects are
texts, and no integer is too long, be it written as a number or as a text. -/
inductive IsJson : Datum → Prop where
  | null : IsJson .null
  | bool (b : Bool) : IsJson (.bool b)
  | int (n : Int) (h : Numeral.isTooLong n = false) : IsJson (.int n)
  | float (x : Binary64) : IsJson (.float x)
  | text (s : String) (h : ¬ Width.IsOversized s) : IsJson (.text s)
  | list (items : List Datum) (h : ∀ item ∈ items, IsJson item) : IsJson (.list items)
  | object (given : Fields) (hkeys : ∀ field ∈ given, ∃ key, field.1 = .text key)
      (h : ∀ field ∈ given, IsJson field.2) : IsJson (.object given)

namespace IsJson

variable {value : Datum} {items : List Datum} {given : Fields} {key : String}

theorem isWritable (h : value.IsJson) : value.isWritable := by
  induction h with
  | null | bool | float | text => rfl
  | int n h => simp [Datum.isWritable, Scalar.isWritable, h]
  | list items _ ih => exact areWritable_iff.mpr ih
  | object given hkeys _ ih =>
    refine fieldsAreWritable_iff.mpr fun field hfield => ⟨?_, ih field hfield⟩
    obtain ⟨key, hkey⟩ := hkeys field hfield
    rw [hkey]
    rfl

theorem text_iff {s : String} : (Datum.text s).IsJson ↔ ¬ Width.IsOversized s := by
  constructor
  · intro h
    cases h with
    | text _ h => exact h
  · exact .text s

theorem int_iff {n : Int} : (Datum.int n).IsJson ↔ Numeral.isTooLong n = false := by
  constructor
  · intro h
    cases h with
    | int _ h => exact h
  · exact .int n

theorem list_iff : (Datum.list items).IsJson ↔ ∀ item ∈ items, item.IsJson := by
  constructor
  · intro h
    cases h with
    | list _ h => exact h
  · exact .list items

theorem object_iff : (Datum.object given).IsJson ↔
    ∀ field ∈ given, (∃ key, field.1 = .text key) ∧ field.2.IsJson := by
  constructor
  · intro h field hfield
    cases h with
    | object _ hkeys h => exact ⟨hkeys field hfield, h field hfield⟩
  · exact fun h => .object given (fun field hfield => (h field hfield).1)
      fun field hfield => (h field hfield).2

theorem of_get? (h : (Datum.object given).IsJson) (hvalue : given.get? key = some value) :
    value.IsJson :=
  (object_iff.mp h _ (Fields.mem_of_get? hvalue)).2

end IsJson

theorem listOf_congr {p q : Datum → Prop} {value : Datum} (h : value.IsJson)
    (hpq : ∀ item, item.IsJson → (p item ↔ q item)) : value.ListOf p ↔ value.ListOf q := by
  cases value with
  | list items => exact forall₂_congr fun item hitem => hpq item (IsJson.list_iff.mp h item hitem)
  | _ => exact Iff.rfl

theorem objectOf_congr {p q : Fields → Prop} {value : Datum} (h : value.IsJson)
    (hpq : ∀ given : Fields, (Datum.object given).IsJson → (p given ↔ q given)) :
    value.ObjectOf p ↔ value.ObjectOf q := by
  cases value with
  | object given => exact hpq given h
  | _ => exact Iff.rfl

end Datum

/-! ## Fields of JSON objects -/

namespace Schema

variable {α : Type} {read : Datum → Checked α} {given : Fields} {p : Datum → Prop}

theorem isValid_required_iff_of_isJson (name : Name) (h : (Datum.object given).IsJson)
    (hread : ∀ value, value.IsJson → ((read value).IsValid ↔ p value)) :
    (required name read given).IsValid ↔ ∃ value ∈ name.valueIn given.get?, p value := by
  rw [isValid_required_iff]
  exact exists_congr fun value => and_congr_right fun hvalue =>
    hread value (Name.of_valueIn (fun _ _ => h.of_get?) hvalue)

theorem isValid_optional_iff_of_isJson (name : Name) (default : α)
    (h : (Datum.object given).IsJson)
    (hread : ∀ value, value.IsJson → ((read value).IsValid ↔ p value)) :
    (optional name default read given).IsValid ↔ ∀ value ∈ name.valueIn given.get?, p value := by
  rw [isValid_optional_iff]
  exact forall₂_congr fun value hvalue =>
    hread value (Name.of_valueIn (fun _ _ => h.of_get?) hvalue)

end Schema

/-! ## Widths -/

namespace Width

open Schema.Checked

theorem isValid_ofText {s : String} (h : ¬ IsOversized s) : (ofText s).IsValid := by
  by_cases hint : isIntegerText (Text.trimChars s.toList)
  · simp only [ofText, hint, if_true]
    rw [isValid_map_iff, isValid_ofOption_iff]
    exact Numeral.isSome_readDecimal? hint (by simpa [IsOversized, hint] using h)
  · simp [ofText, hint]

/-- What starts with neither a blank nor a sign nor a digit is no integer. -/
theorem not_isOversized_of_toList_eq {s : String} {c : Char} {cs : List Char}
    (h : s.toList = c :: cs) (hblank : Text.isBlank c = false) (hdigit : Text.isDigit c = false)
    (hminus : c ≠ '-') (hplus : c ≠ '+') : ¬ IsOversized s := by
  rintro ⟨hint, -⟩
  obtain ⟨rest, hrest⟩ := Text.exists_trimChars_eq cs hblank
  have hunsigned : unsignedPart (c :: rest) = c :: rest := by
    unfold unsignedPart
    split <;> simp_all
  rw [h, hrest] at hint
  simp [isIntegerText, hunsigned, hdigit] at hint

theorem not_isOversized_display {value : Datum} (h : ∀ s, value ≠ .scalar s) :
    ¬ IsOversized value.display := by
  cases value with
  | scalar s => exact absurd rfl (h s)
  | list items =>
    have htext : (Datum.list items).display.toList =
        '[' :: (", ".intercalate (Datum.innerItems items) ++ "]").toList := by
      simp [Datum.display, Datum.inner]
    exact not_isOversized_of_toList_eq htext rfl rfl (by decide) (by decide)
  | object given =>
    have htext : (Datum.object given).display.toList =
        '\x7b' :: (", ".intercalate (Datum.innerFields given) ++ "\x7d").toList := by
      simp [Datum.display, Datum.inner]
    exact not_isOversized_of_toList_eq htext rfl rfl (by decide) (by decide)

theorem isValid_read_of_display? {value : Datum} (h : value.isWritable)
    (hscalar : ∀ s, value ≠ .scalar s) : (read value).IsValid := by
  have hread : read value =
      (ofOption .badValue value.display?).andThen fun s => (ofText s).map some := by
    cases value with
    | scalar s => exact absurd rfl (hscalar s)
    | list items => rfl
    | object given => rfl
  have hdisplay : value.display? = some value.display := by simp [Datum.display?, h]
  rw [hread, hdisplay]
  simpa [ofOption, andThen] using isValid_ofText (not_isOversized_display hscalar)

/-- Every JSON value is taken as a width. -/
theorem isValid_read {value : Datum} (h : value.IsJson) : (read value).IsValid := by
  have hwritable := h.isWritable
  cases h with
  | null | bool | int | float => exact isValid_valid _
  | text s hs =>
    have hread : read (.text s) = (ofText s).map some := rfl
    rw [hread, isValid_map_iff]
    exact isValid_ofText hs
  | list items => exact isValid_read_of_display? hwritable (by simp)
  | object given => exact isValid_read_of_display? hwritable (by simp)

end Width

end DesignRules
