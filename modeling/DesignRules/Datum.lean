import DesignRules.Scalar

/-! # Data

Untyped values as they come in from diagrams and configuration files. The fields of an
object keep their order. Their keys are texts, except that a configuration file may use
any scalar as a key.

A text is a sequence of characters. The halves of surrogate pairs, which a text may hold one
by one, are no characters; those of U+10D800 to U+10DFFF stand for them, so that a text with
one of these private characters of its own is outside the library.
-/

namespace DesignRules

inductive Datum where
  | scalar (value : Scalar)
  | list (items : List Datum)
  | object (fields : List (Scalar × Datum))
  deriving Inhabited, Repr

abbrev Fields := List (Scalar × Datum)

namespace Fields

def get? (fields : Fields) (key : String) : Option Datum := fields.lookup (.text key)

def has (fields : Fields) (key : Scalar) : Bool := fields.any (·.1.same key)

/-- The fields without the one at a key. -/
def remove (fields : Fields) (key : String) : Fields :=
  fields.filter fun field => field.1 != .text key

/-- Replaces the value at a key in place, or adds the key at the end. -/
def insert (fields : Fields) (key : Scalar) (value : Datum) : Fields :=
  if fields.has key then
    fields.map fun field => if field.1.same key then (field.1, value) else field
  else fields ++ [(key, value)]

/-- The fields given one after the other; of the values given for a key the latest counts. -/
def collected (fields : Fields) : Fields :=
  fields.foldl (fun given field => given.insert field.1 field.2) []

end Fields

namespace Datum

@[match_pattern] abbrev null : Datum := .scalar .null

@[match_pattern] abbrev bool (value : Bool) : Datum := .scalar (.bool value)

@[match_pattern] abbrev int (value : Int) : Datum := .scalar (.int value)

@[match_pattern] abbrev float (value : Binary64) : Datum := .scalar (.float value)

@[match_pattern] abbrev text (value : String) : Datum := .scalar (.text value)

mutual

def decEq : (a b : Datum) → Decidable (a = b)
  | .scalar s, .scalar t => decidable_of_iff (s = t) (by simp)
  | .list items, .list others =>
    have := decEqItems items others
    decidable_of_iff (items = others) (by simp)
  | .object fields, .object others =>
    have := decEqFields fields others
    decidable_of_iff (fields = others) (by simp)
  | .scalar _, .list _ | .scalar _, .object _ | .list _, .scalar _ | .list _, .object _
  | .object _, .scalar _ | .object _, .list _ => .isFalse nofun

def decEqItems : (a b : List Datum) → Decidable (a = b)
  | [], [] => .isTrue rfl
  | item :: items, other :: others =>
    have := decEq item other
    have := decEqItems items others
    decidable_of_iff (item = other ∧ items = others) (by simp)
  | [], _ :: _ | _ :: _, [] => .isFalse nofun

def decEqFields : (a b : List (Scalar × Datum)) → Decidable (a = b)
  | [], [] => .isTrue rfl
  | (key, value) :: rest, (other, content) :: others =>
    have := decEq value content
    have := decEqFields rest others
    decidable_of_iff ((key = other ∧ value = content) ∧ rest = others) (by simp)
  | [], _ :: _ | _ :: _, [] => .isFalse nofun

end

instance : DecidableEq Datum := decEq

def texts (items : List String) : Datum := .list (items.map .text)

def ofOption (value : Option String) : Datum := (value.map Datum.text).getD .null

def isNull : Datum → Bool
  | .null => true
  | _ => false

/-- A scalar that is false and everything empty is false, all else is true. -/
def isTrue : Datum → Bool
  | .scalar s => s.isTrue
  | .list items => !items.isEmpty
  | .object fields => !fields.isEmpty

def get? : Datum → String → Option Datum
  | .object fields, key => Fields.get? fields key
  | _, _ => none

/-- What a value consists of one by one: an object of its keys, a text of its characters. -/
def members? : Datum → Option (List Datum)
  | .list items => some items
  | .object fields => some (fields.map fun field => .scalar field.1)
  | .text s => some (s.toList.map fun c => .text (String.singleton c))
  | _ => none

mutual

/-- No integer in the value has more digits than are written. -/
def isWritable : Datum → Bool
  | .scalar s => s.isWritable
  | .list items => areWritable items
  | .object fields => fieldsAreWritable fields

def areWritable : List Datum → Bool
  | [] => true
  | item :: rest => item.isWritable && areWritable rest

def fieldsAreWritable : List (Scalar × Datum) → Bool
  | [] => true
  | (key, value) :: rest => key.isWritable && value.isWritable && fieldsAreWritable rest

end

mutual

/-- The display of a value inside a list or an object. -/
def inner : Datum → String
  | .scalar s => s.inner
  | .list items => "[" ++ ", ".intercalate (innerItems items) ++ "]"
  | .object fields => "\x7b" ++ ", ".intercalate (innerFields fields) ++ "\x7d"

def innerItems : List Datum → List String
  | [] => []
  | item :: rest => item.inner :: innerItems rest

def innerFields : List (Scalar × Datum) → List String
  | [] => []
  | (key, value) :: rest => (key.inner ++ ": " ++ value.inner) :: innerFields rest

end

/-- The display of a value on its own. -/
def display : Datum → String
  | .scalar s => s.display
  | value => value.inner

def display? (value : Datum) : Option String :=
  if value.isWritable then some value.display else none

mutual

/-- A value as it stands in an answer, where the keys of objects are texts. -/
def written : Datum → Datum
  | .scalar s => .scalar s.written
  | .list items => .list (writtenItems items)
  | .object fields => .object (Fields.collected (writtenFields fields))

def writtenItems : List Datum → List Datum
  | [] => []
  | item :: rest => item.written :: writtenItems rest

def writtenFields : List (Scalar × Datum) → List (Scalar × Datum)
  | [] => []
  | (key, value) :: rest => (.text key.keyText, value.written) :: writtenFields rest

end

end Datum

namespace Fields

def written (fields : Fields) : Fields := collected (Datum.writtenFields fields)

/-- The value at a key, unless it is absent or null. -/
def given? (fields : Fields) (key : String) : Option Datum :=
  (fields.get? key).filter fun value => !value.isNull

end Fields

end DesignRules
