import DesignRules.Datum
import DesignRules.Yaml.Node

/-! # Values of nodes

A scalar has the value of its kind, a sequence is a list and a mapping an object, into
which other mappings may be merged. Values are found from the root on level by level, so
that of several faults the one with the least depth counts.
-/

namespace DesignRules.Yaml

/-! ## Merging -/

namespace Node

def kind : Node → Kind
  | .scalar k _ | .sequence k _ | .mapping k _ => k

/-- The key of the value that a mapping stands for is a text like any other. -/
def asKey : Node → Node
  | .scalar .default s => .scalar .text s
  | n => n

def entries? : Node → Option (List (Node × Node))
  | .mapping _ entries => some entries
  | _ => none

/-- The entries that a mapping, or a sequence of mappings, adds to the one around it. In a
sequence the last mapping comes first. -/
def added? : Node → Option (List (Node × Node))
  | .sequence _ items => (items.mapM entries?).map fun found => found.reverse.flatten
  | n => n.entries?

def isMerge (entry : Node × Node) : Bool := entry.1.kind == .merge

/-- The entries of a mapping after those that are merged into it. -/
def merged? (entries : List (Node × Node)) : Option (List (Node × Node)) :=
  let own := (entries.filter fun entry => !isMerge entry).map fun entry => (entry.1.asKey, entry.2)
  ((entries.filter isMerge).mapM fun entry => added? entry.2).map fun found =>
    found.flatten ++ own

/-- A mapping into which something is merged that is no mapping has no value. -/
def withoutValue : Node := .scalar .mapping ""

mutual

/-- Merges everywhere in a node. -/
def flat : Node → Node
  | .scalar k s => .scalar k s
  | .sequence k items => .sequence k (flatItems items)
  | .mapping k entries =>
    match merged? (flatEntries entries) with
    | some entries => .mapping k entries
    | none => withoutValue

def flatItems : List Node → List Node
  | [] => []
  | n :: rest => flat n :: flatItems rest

def flatEntries : List (Node × Node) → List (Node × Node)
  | [] => []
  | (key, value) :: rest => (flat key, flat value) :: flatEntries rest

end

end Node

/-! ## Values -/

/-- A value, or a fault with its depth. -/
abbrev Built (α : Type) := Except (Nat × Fault) α

/-- Of two faults the one with the least depth, else the first. -/
def Built.both {α β : Type} (x : Built α) (y : Built β) : Built (α × β) :=
  match x, y with
  | .ok a, .ok b => .ok (a, b)
  | .ok _, .error f => .error f
  | .error f, .ok _ => .error f
  | .error f, .error g => .error (if g.1 < f.1 then g else f)

namespace Node

/-- The value of a key, which must be a scalar. -/
def keyAt (depth : Nat) : Node → Built Scalar
  | .scalar .sequence _ | .scalar .mapping _ => .error (depth, .malformed)
  | .scalar k s => (readAs k s).mapError fun f => (depth, f)
  | _ => .error (depth, .malformed)

mutual

/-- The value of a node. A collection looks into itself one level below its own. -/
def valueAt (depth : Nat) : Node → Built Datum
  | .scalar k s =>
    if k = .sequence ∨ k = .mapping then .error (depth + 1, .malformed)
    else ((readAs k s).map Datum.scalar).mapError fun f => (depth, f)
  | .sequence .sequence items => (itemsAt (depth + 1) items).map .list
  | .mapping .mapping entries =>
    (entriesAt (depth + 1) entries).map fun fields => .object fields.collected
  | .sequence k _ | .mapping k _ =>
    .error (if k = .sequence ∨ k = .mapping then depth + 1 else depth, .malformed)

def itemsAt (depth : Nat) : List Node → Built (List Datum)
  | [] => .ok []
  | n :: rest =>
    ((valueAt depth n).both (itemsAt depth rest)).map fun (value, more) => value :: more

def entriesAt (depth : Nat) : List (Node × Node) → Built Fields
  | [] => .ok []
  | (key, value) :: rest =>
    (((keyAt depth key).both (valueAt depth value)).both (entriesAt depth rest)).map
      fun ((key, value), more) => (key, value) :: more

end

def value (n : Node) : Except Fault Datum := (valueAt 0 n.flat).mapError (·.2)

end Node

end DesignRules.Yaml
