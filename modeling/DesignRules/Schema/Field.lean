import DesignRules.Schema.Scalar
import DesignRules.Text.Camel

/-! # Fields of a schema

A field may be spelt in camel case or with underscores. The camel-case spelling wins
whenever it is present, even if its value is null.
-/

namespace DesignRules.Schema

open Checked

/-- The two spellings of a field, the preferred one first. -/
structure Name where
  camel : String
  plain : String
  deriving DecidableEq, Repr

namespace Name

def same (name : String) : Name := ⟨name, name⟩

/-- The spelling under which a field is given, with its value. -/
def find? (name : Name) (given : Fields) : Option (String × Datum) :=
  match given.get? name.camel with
  | some value => some (name.camel, value)
  | none => (given.get? name.plain).map fun value => (name.plain, value)

end Name

variable {α : Type}

def required (name : Name) (read : Datum → Checked α) (given : Fields) : Checked α :=
  match name.find? given with
  | some (key, value) => within (.key key) (read value)
  | none => within (.key name.camel) (fail .missing)

def optional (name : Name) (default : α) (read : Datum → Checked α) (given : Fields) :
    Checked α :=
  match name.find? given with
  | some (key, value) => within (.key key) (read value)
  | none => .valid default

/-- Reads a scalar other than a text as its display; lists and objects stay as they are. -/
def scalarText : Datum → Checked Datum
  | .null => .valid .null
  | .list items => .valid (.list items)
  | .object fields => .valid (.object fields)
  | value => (ofOption .badValue value.display?).map .text

def textLike (value : Datum) : Checked String := (scalarText value).andThen text

def optionalText (value : Datum) : Checked (Option String) :=
  (scalarText value).andThen (nullable text)

end DesignRules.Schema
