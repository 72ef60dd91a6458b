import DesignRules.Schema.Field

/-! # Acceptance

When a value is accepted by a schema: the parts are accepted one by one, and a field is
judged by the value that it has under the spelling that counts.
-/

namespace DesignRules

namespace Datum

/-- A flag, a number, a text or a moment. -/
def isScalar : Datum → Bool
  | .null => false
  | .scalar _ => true
  | _ => false

/-- Null or without members. -/
def isVoid : Datum → Bool
  | .null | .list [] | .object [] => true
  | _ => false

/-- A list whose items all are so. -/
def ListOf (p : Datum → Prop) : Datum → Prop
  | .list items => ∀ item ∈ items, p item
  | _ => False

/-- An object whose fields are so. -/
def ObjectOf (p : Fields → Prop) : Datum → Prop
  | .object given => p given
  | _ => False

instance (p : Datum → Prop) [DecidablePred p] : DecidablePred (ListOf p)
  | .list items => inferInstanceAs (Decidable (∀ item ∈ items, p item))
  | .scalar _ | .object _ => isFalse id

instance (p : Fields → Prop) [DecidablePred p] : DecidablePred (ObjectOf p)
  | .object given => inferInstanceAs (Decidable (p given))
  | .scalar _ | .list _ => isFalse id

/-- The display of a scalar; what is none stays as it is. -/
def spelling (value : Datum) : Datum := if value.isScalar then .text value.display else value

end Datum

namespace Schema

open Checked

namespace Checked

variable {α β : Type}

/-- Reading gives a result. -/
def IsValid (c : Checked α) : Prop := ∃ a, c = .valid a

@[simp] theorem isValid_valid (a : α) : (Checked.valid a).IsValid := ⟨a, rfl⟩

@[simp] theorem not_isValid_invalid (issues : List Issue) :
    ¬ (Checked.invalid issues : Checked α).IsValid := fun ⟨_, h⟩ => nomatch h

@[simp] theorem not_isValid_fail (problem : Problem) : ¬ (fail problem : Checked α).IsValid :=
  not_isValid_invalid _

@[simp] theorem isValid_pure (a : α) : (pure a : Checked α).IsValid := isValid_valid a

@[simp] theorem isValid_map_iff {f : α → β} {c : Checked α} : (map f c).IsValid ↔ c.IsValid := by
  cases c <;> simp [map]

@[simp] theorem isValid_functor_map_iff {f : α → β} {c : Checked α} :
    (f <$> c).IsValid ↔ c.IsValid :=
  isValid_map_iff

@[simp] theorem isValid_apply_iff {f : Checked (α → β)} {c : Checked α} :
    (apply f c).IsValid ↔ f.IsValid ∧ c.IsValid := by
  cases f <;> cases c <;> simp [apply]

@[simp] theorem isValid_seq_iff {f : Checked (α → β)} {c : Checked α} :
    (f <*> c).IsValid ↔ f.IsValid ∧ c.IsValid :=
  isValid_apply_iff

@[simp] theorem isValid_within_iff {step : Step} {c : Checked α} :
    (within step c).IsValid ↔ c.IsValid := by
  cases c <;> simp [within]

@[simp] theorem isValid_ofOption_iff {problem : Problem} {o : Option α} :
    (ofOption problem o).IsValid ↔ o.isSome := by
  cases o <;> simp [ofOption]

@[simp] theorem map_valid (f : α → β) (a : α) : map f (.valid a) = .valid (f a) := rfl

@[simp] theorem andThen_valid (a : α) (f : α → Checked β) : (Checked.valid a).andThen f = f a := rfl

theorem seq_eq_valid_iff {f : Checked (α → β)} {c : Checked α} {b : β} :
    f <*> c = .valid b ↔ ∃ g a, f = .valid g ∧ c = .valid a ∧ g a = b := by
  cases f <;> cases c <;> simp [Seq.seq, apply]

theorem functor_map_eq_valid_iff {f : α → β} {c : Checked α} {b : β} :
    f <$> c = .valid b ↔ ∃ a, c = .valid a ∧ f a = b := by
  cases c <;> simp [Functor.map, Checked.map]

theorem andThen_eq_valid_iff {c : Checked α} {f : α → Checked β} {b : β} :
    c.andThen f = .valid b ↔ ∃ a, c = .valid a ∧ f a = .valid b := by
  cases c <;> simp [andThen]

theorem isValid_eachFrom_iff {read : β → Checked α} {items : List β} (i : Nat) :
    (eachFrom read i items).IsValid ↔ ∀ item ∈ items, (read item).IsValid := by
  induction items generalizing i with
  | nil => simp [eachFrom]
  | cons item items ih => simp [eachFrom, ih]

theorem isValid_list_iff {read : Datum → Checked α} {value : Datum} :
    (list read value).IsValid ↔ value.ListOf fun item => (read item).IsValid := by
  cases value with
  | list items => exact isValid_eachFrom_iff 0
  | scalar s => simp [list, Datum.ListOf]
  | object given => simp [list, Datum.ListOf]

theorem isValid_fields_andThen_iff {read : Fields → Checked α} {value : Datum} :
    ((fields value).andThen read).IsValid ↔ value.ObjectOf fun given => (read given).IsValid := by
  cases value <;> simp [fields, andThen, Datum.ObjectOf, fail]

end Checked

/-! ## Fields -/

section Fields

variable {α : Type} {name : Name} {read : Datum → Checked α} {given : Fields} {default : α}

/-- The value of a field in what is given for keys. -/
def Name.valueIn (name : Name) (look : String → Option Datum) : Option Datum :=
  (look name.camel).or (look name.plain)

@[simp] theorem Name.valueIn_same (key : String) (look : String → Option Datum) :
    (Name.same key).valueIn look = look key := by
  cases h : look key <;> simp [valueIn, same, h]

theorem Name.of_valueIn {p : Datum → Prop} {look : String → Option Datum} {value : Datum}
    (h : ∀ key value, look key = some value → p value) (hvalue : name.valueIn look = some value) :
    p value := by
  rcases Option.or_eq_some_iff.mp hvalue with hcamel | ⟨-, hplain⟩
  · exact h _ value hcamel
  · exact h _ value hplain

theorem Name.valueIn_get? (name : Name) (given : Fields) :
    name.valueIn given.get? = (name.find? given).map Prod.snd := by
  unfold valueIn find?
  cases given.get? name.camel with
  | some value => rfl
  | none => simp [Function.comp_def]

theorem isValid_required_iff : (required name read given).IsValid ↔
    ∃ value ∈ name.valueIn given.get?, (read value).IsValid := by
  rw [Name.valueIn_get?, required]
  cases name.find? given <;> simp

theorem isValid_optional_iff : (optional name default read given).IsValid ↔
    ∀ value ∈ name.valueIn given.get?, (read value).IsValid := by
  rw [Name.valueIn_get?, optional]
  cases name.find? given <;> simp

/-- What is read for a field is read from its value. -/
theorem read_of_optional {value : Datum} {a : α} (hvalue : name.valueIn given.get? = some value)
    (h : optional name default read given = .valid a) : read value = .valid a := by
  rw [Name.valueIn_get?] at hvalue
  obtain ⟨⟨key, found⟩, hfind, rfl⟩ := Option.map_eq_some_iff.mp hvalue
  simp only [optional, hfind] at h
  cases hread : read found <;> simp_all [within]

end Fields

/-! ## Scalars -/

section Scalars

variable {value : Datum}

theorem scalarText_eq (h : value.isWritable) : scalarText value = .valid value.spelling := by
  cases value with
  | scalar s => cases s <;> simp_all [scalarText, Datum.spelling, Datum.isScalar, Datum.display?,
      ofOption, Checked.map]
  | list items => rfl
  | object given => rfl

theorem text_spelling_of_isScalar (h : value.isScalar) :
    text value.spelling = .valid value.display := by
  rw [Datum.spelling, if_pos h]
  rfl

theorem isValid_text_spelling_iff : (text value.spelling).IsValid ↔ value.isScalar := by
  by_cases h : value.isScalar
  · simp [text_spelling_of_isScalar h, h]
  · cases value with
    | scalar s => cases s <;> simp_all [Datum.isScalar, Datum.spelling, text]
    | list items => simp [Datum.isScalar, Datum.spelling, text]
    | object given => simp [Datum.isScalar, Datum.spelling, text]

theorem isValid_textLike_iff (h : value.isWritable) :
    (textLike value).IsValid ↔ value.isScalar := by
  rw [textLike, scalarText_eq h]
  exact isValid_text_spelling_iff

theorem isValid_nullable_iff {α : Type} {read : Datum → Checked α} :
    (nullable read value).IsValid ↔ value.isNull ∨ (read value).IsValid := by
  unfold nullable
  split
  · simp [Datum.isNull]
  · simp_all [Datum.isNull]

theorem isNull_spelling : value.spelling.isNull = value.isNull := by
  cases value with
  | scalar s => cases s <;> rfl
  | list items => rfl
  | object given => rfl

theorem isTrue_spelling_imp_iff :
    (value.spelling.isTrue → value.isScalar) ↔ value.isScalar ∨ value.isVoid := by
  cases value with
  | scalar s => cases s <;> simp [Datum.isScalar, Datum.isVoid, Datum.spelling, Datum.isTrue,
      Scalar.isTrue]
  | list items => cases items <;> simp [Datum.isScalar, Datum.isVoid, Datum.spelling, Datum.isTrue]
  | object given =>
    cases given <;> simp [Datum.isScalar, Datum.isVoid, Datum.spelling, Datum.isTrue]

theorem isTrue_spelling_and_iff :
    (value.spelling.isTrue ∧ value.isScalar) ↔ value.isScalar ∧ value.display ≠ "" := by
  by_cases h : value.isScalar <;> simp [h, Datum.spelling, Datum.isTrue, Scalar.isTrue]

theorem optionalText_of_display? {s : Scalar} {t : String} (hnull : s ≠ .null)
    (h : (Datum.scalar s).display? = some t) : optionalText (.scalar s) = .valid (some t) := by
  obtain ⟨hwritable, hdisplay⟩ : (Datum.scalar s).isWritable ∧ (Datum.scalar s).display = t := by
    simpa only [Datum.display?, Option.ite_none_right_eq_some, Option.some_inj] using h
  have hscalar : (Datum.scalar s).isScalar := by cases s <;> simp_all [Datum.isScalar]
  rw [optionalText, scalarText_eq hwritable, Datum.spelling, if_pos hscalar, hdisplay]
  rfl

theorem isValid_optionalText_iff (h : value.isWritable) :
    (optionalText value).IsValid ↔ value.isNull ∨ value.isScalar := by
  rw [optionalText, scalarText_eq h, ← isNull_spelling, ← isValid_text_spelling_iff]
  exact isValid_nullable_iff

end Scalars

end Schema

end DesignRules
