/-! # Checked values

Reading a value against a schema either gives a result or a non-empty list of issues.
Several parts are read side by side, and the issues of all of them are collected in order.
-/

namespace DesignRules.Schema

/-- One step into a value: to a field or to a position of a list. -/
inductive Step where
  | key (name : String)
  | index (position : Nat)
  deriving DecidableEq, Repr

inductive Problem where
  | missing
  | notObject
  | notList
  | notDictionary
  | notText
  /-- A text that is to be read holds a half of a surrogate pair. -/
  | brokenText
  | notInteger
  | unreadableInteger
  | oversizedInteger
  | fractionalInteger
  | infiniteInteger
  | notFlag
  | unreadableFlag
  | notChoice
  /-- The name of a field is no text. -/
  | badKey
  | badValue
  deriving DecidableEq, Repr

/-- A problem and the path to where it was found. -/
structure Issue where
  problem : Problem
  path : List Step
  deriving DecidableEq, Repr

inductive Checked (α : Type) where
  | valid (value : α)
  | invalid (issues : List Issue)
  deriving DecidableEq, Repr

namespace Checked

variable {α β : Type}

def fail (problem : Problem) : Checked α := .invalid [⟨problem, []⟩]

def map (f : α → β) : Checked α → Checked β
  | .valid a => .valid (f a)
  | .invalid issues => .invalid issues

/-- Applies a read function to a read argument and keeps the issues of both. -/
def apply : Checked (α → β) → Checked α → Checked β
  | .valid f, .valid a => .valid (f a)
  | .valid _, .invalid issues => .invalid issues
  | .invalid issues, .valid _ => .invalid issues
  | .invalid issues, .invalid more => .invalid (issues ++ more)

instance : Functor Checked where
  map := map

instance : Applicative Checked where
  pure := .valid
  seq f a := apply f (a ())

/-- Goes on with a result; an invalid value stops. -/
def andThen : Checked α → (α → Checked β) → Checked β
  | .valid a, f => f a
  | .invalid issues, _ => .invalid issues

/-- Places the issues of a part under the step that leads to it. -/
def within (step : Step) : Checked α → Checked α
  | .valid a => .valid a
  | .invalid issues => .invalid (issues.map fun issue => ⟨issue.problem, step :: issue.path⟩)

def ofOption (problem : Problem) : Option α → Checked α
  | some a => .valid a
  | none => fail problem

/-- Reads the members of a list from a position on. -/
def eachFrom (read : β → Checked α) : Nat → List β → Checked (List α)
  | _, [] => .valid []
  | i, b :: rest => apply (map List.cons (within (.index i) (read b))) (eachFrom read (i + 1) rest)

def each (read : β → Checked α) (items : List β) : Checked (List α) := eachFrom read 0 items

/-- Reads members one after the other, up to the first that is malformed. -/
def inTurn (read : β → Checked α) : List β → Checked (List α)
  | [] => .valid []
  | b :: rest => (read b).andThen fun a => (inTurn read rest).map (a :: ·)

end Checked

end DesignRules.Schema
