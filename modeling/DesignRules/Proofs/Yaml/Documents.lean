import DesignRules.Proofs.Written
import DesignRules.Yaml.Engine

/-! # Documents that are data

What a program sees of a document that is data is what it sees of the data. Of engines it may be
asked that they read plain data as they have written it.
-/

namespace DesignRules

/-! ## Plain data -/

/-- Lists and objects of integers that can be written and of printable texts. -/
inductive Datum.IsPlain : Datum → Prop where
  | int (n : Int) (h : Numeral.isTooLong n = false) : IsPlain (.int n)
  | text (s : String) (h : s.toList.all Text.isPrintable) : IsPlain (.text s)
  | list (items : List Datum) (h : ∀ item ∈ items, IsPlain item) : IsPlain (.list items)
  | object (given : Fields) (hkeys : given.HasTextKeys)
    (hprintable : ∀ field ∈ given, IsPlain (.scalar field.1))
    (h : ∀ field ∈ given, IsPlain field.2) : IsPlain (.object given)

/-- What the engine writes of plain data it reads as it was. -/
def Yaml.Engine.Inverts [Yaml.Engine] : Prop := ∀ given : Fields, (Datum.object given).IsPlain →
  load (dump given) = .ok (.data (.object given))

/-! ## Looking into documents -/

namespace Yaml.Document

variable [Engine]

theorem isTrue_data (value : Datum) :
    isTrue (.data value : Document Engine.Other) = value.isTrue := by
  cases value <;> simp [isTrue, level, Datum.isTrue]

theorem isText_data (key : String) (k : Scalar) :
    isText key (.data (.scalar k) : Document Engine.Other) = (Scalar.text key == k) := by
  cases k with
  | text s =>
    rw [Bool.eq_iff_iff, isText, beq_iff_eq, beq_iff_eq, Scalar.text.injEq]
    exact eq_comm
  | _ => rfl

theorem get?_data (given : Fields) (key : String) :
    get? (.data (.object given) : Document Engine.Other) key = (given.get? key).map .data := by
  simp only [get?, level, List.find?_map, Function.comp_def, isText_data]
  induction given with
  | nil => rfl
  | cons field given ih =>
    rw [List.find?_cons, Fields.get?, List.lookup_cons]
    cases Scalar.text key == field.1 with
    | true => rfl
    | false => exact ih

theorem members?_data (value : Datum) :
    members? (.data value : Document Engine.Other) = value.members?.map (List.map .data) := by
  cases value with
  | scalar s => cases s <;> simp [members?, level, Datum.members?]
  | list items => rfl
  | object given => simp [members?, level, Datum.members?]

theorem inTurn_fit_data {α : Type} (read : Datum → Schema.Checked α) (values : List Datum) :
    Schema.Checked.inTurn (fit read) (values.map .data) = Schema.Checked.inTurn read values := by
  induction values with
  | nil => rfl
  | cons value values ih =>
    rw [List.map_cons, Schema.Checked.inTurn, Schema.Checked.inTurn, ih]
    rfl

end Yaml.Document

end DesignRules
