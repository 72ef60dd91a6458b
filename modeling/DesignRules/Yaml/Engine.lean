import DesignRules.Schema.Checked
import DesignRules.Yaml.Reading
import DesignRules.Yaml.Writing

/-! # Engines for YAML

YAML has more values than data: sets, octets, and collections that hold such values or
themselves. An engine reads and writes texts, and it lets a program look into its values level
by level.
-/

namespace DesignRules.Yaml

/-- One level of a value. -/
inductive Level (α : Type) where
  | scalar (value : Scalar)
  | list (items : List α)
  /-- Keys with their values. -/
  | object (entries : List (α × α))
  | set (members : List α)
  | octets (values : List Nat)

/-- What stands in a text: data, or a value that data has no form for. -/
inductive Document (ω : Type) where
  | data (value : Datum)
  | other (value : ω)

/-- A program that reads and writes YAML. -/
class Engine where
  /-- The values that are no data. -/
  Other : Type
  level : Other → Level (Document Other)
  /-- Reads a text. Any fault but a malformed text is one of a value in it. -/
  load : String → Except Fault (Document Other)
  /-- Writes an object whose integers can be written. -/
  dump : Fields → String
  /-- What a schema for data makes of a value that is none. -/
  fit {α : Type} (read : Datum → Schema.Checked α) : Other → Schema.Checked α

/-- The engine that knows no values but data. -/
instance plainEngine : Engine where
  Other := Empty
  level := nofun
  load text := (read text).map .data
  dump := write
  fit _ := nofun

namespace Document

variable [Engine]

def level : Document Engine.Other → Level (Document Engine.Other)
  | .data (.scalar s) => .scalar s
  | .data (.list items) => .list (items.map .data)
  | .data (.object given) =>
    .object (given.map fun field => (.data (.scalar field.1), .data field.2))
  | .other value => Engine.level value

def isText (s : String) : Document Engine.Other → Bool
  | .data (.text t) => t == s
  | _ => false

def isTrue (document : Document Engine.Other) : Bool :=
  match document.level with
  | .scalar s => s.isTrue
  | .list items | .set items => !items.isEmpty
  | .object entries => !entries.isEmpty
  | .octets values => !values.isEmpty

/-- The value at a key of an object. -/
def get? (document : Document Engine.Other) (key : String) : Option (Document Engine.Other) :=
  match document.level with
  | .object entries => (entries.find? fun entry => entry.1.isText key).map (·.2)
  | _ => none

/-- What a value consists of one by one: an object of its keys, a text of its characters. -/
def members? (document : Document Engine.Other) : Option (List (Document Engine.Other)) :=
  match document.level with
  | .list items | .set items => some items
  | .object entries => some (entries.map (·.1))
  | .octets values => some (values.map fun n : Nat => .data (.int n))
  | .scalar (.text s) => some (s.toList.map fun c => .data (.text (String.singleton c)))
  | .scalar _ => none

def fit {α : Type} (read : Datum → Schema.Checked α) : Document Engine.Other → Schema.Checked α
  | .data value => read value
  | .other value => Engine.fit read value

end Document

end DesignRules.Yaml
