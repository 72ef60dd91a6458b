import DesignRules.Yaml.Cursor

/-! # Block scalars

Scalars that stand in lines of their own below a bar, which keeps the lines apart, or an
angle bracket, which folds them. A header tells the indent and what becomes of the line
breaks at the end.
-/

namespace DesignRules.Yaml

/-- What becomes of the line breaks at the end of a block scalar. -/
inductive Chomping where
  /-- One stays. -/
  | clip
  | strip
  | keep
  deriving DecidableEq, Repr

structure BlockHeader where
  chomping : Chomping
  /-- The depth below the block around it; without it the first line tells. -/
  depth : Option Nat
  deriving DecidableEq, Repr

namespace BlockHeader

def chomping? : Char → Option Chomping
  | '+' => some .keep
  | '-' => some .strip
  | _ => none

def depth? (c : Char) : Option Nat :=
  if '1' ≤ c ∧ c ≤ '9' then some (c.toNat - 0x30) else none

/-- Takes the two marks in either order, each at most once. -/
def read (cs : List Char) : BlockHeader × List Char :=
  match cs with
  | [] => (⟨.clip, none⟩, [])
  | a :: rest =>
    match chomping? a, depth? a with
    | some chomping, _ =>
      match rest.head?.bind depth? with
      | some depth => (⟨chomping, some depth⟩, rest.drop 1)
      | none => (⟨chomping, none⟩, rest)
    | none, some depth =>
      match rest.head?.bind chomping? with
      | some chomping => (⟨chomping, some depth⟩, rest.drop 1)
      | none => (⟨.clip, some depth⟩, rest)
    | none, none => (⟨.clip, none⟩, cs)

end BlockHeader

/-- Skips the indent of a line, up to a column. -/
def Cursor.passIndent (indent : Nat) (c : Cursor) : Cursor :=
  c.drop (min (indent - c.column) (c.rest.takeWhile (· == ' ')).length)

/-- The empty lines from a place on, of which each takes a character of the rest. -/
def emptyLines (indent : Nat) : Nat → Cursor → List Char × Cursor
  | 0, c => ([], c)
  | fuel + 1, c =>
    let c := c.passIndent indent
    match c.rest with
    | b :: _ =>
      if isBreak b then
        let (breaks, after) := emptyLines indent fuel c.next
        (breakText b :: breaks, after)
      else ([], c)
    | [] => ([], c)

/-- The empty lines before the first line of a block, and the deepest column among them
and at that line. -/
def leadingLines (deepest : Nat) : Nat → Cursor → List Char × Nat × Cursor
  | 0, c => ([], deepest, c)
  | fuel + 1, c =>
    let c := c.passSpaces
    let deepest := max deepest c.column
    match c.rest with
    | b :: _ =>
      if isBreak b then
        let (breaks, found) := leadingLines deepest fuel c.next
        (breakText b :: breaks, found)
      else ([], deepest, c)
    | [] => ([], deepest, c)

/-- The text of lines, the line break after the last one, the empty lines after that and
the place where the block ends. -/
structure BlockBody where
  text : List Char
  lastBreak : List Char
  trailing : List Char
  after : Cursor

def isIndented (c : Cursor) : Bool := c.rest.head?.any fun a => a == ' ' || a == '\t'

/-- What stands between two lines: a line break, unless it is folded. -/
def betweenLines (isFolded : Bool) (lineBreak breaks : List Char) : List Char :=
  if isFolded && lineBreak == ['\n'] then (if breaks.isEmpty then [' '] else []) else lineBreak

/-- The lines at an indent from a place on, which follow some empty lines. -/
def blockLines (isFolded : Bool) (indent : Nat) : Nat → List Char → List Char → Cursor → BlockBody
  | 0, lastBreak, breaks, c => ⟨[], lastBreak, breaks, c⟩
  | fuel + 1, lastBreak, breaks, c =>
    if c.column != indent || c.rest.isEmpty then ⟨[], lastBreak, breaks, c⟩
    else
      let line := c.rest.takeWhile fun a => !isBreak a
      let ending := c.drop line.length
      let lineBreak := (ending.rest.take 1).map breakText
      let (further, ahead) := emptyLines indent (ending.rest.length + 1) ending.next
      let between :=
        if ahead.column != indent || ahead.rest.isEmpty then []
        else betweenLines (isFolded && !isIndented c && !isIndented ahead) lineBreak further
      let body := blockLines isFolded indent fuel lineBreak further ahead
      { body with text := breaks ++ line ++ between ++ body.text }

def BlockBody.chomped (chomping : Chomping) (b : BlockBody) : List Char :=
  match chomping with
  | .strip => b.text
  | .clip => b.text ++ b.lastBreak
  | .keep => b.text ++ b.lastBreak ++ b.trailing

/-- The text of the block scalar whose mark stands at a place and the place after it. Its
lines are indented at least to the column `least`. -/
def blockScalar (isFolded : Bool) (least : Nat) (c : Cursor) :
    Except Fault (List Char × Cursor) :=
  let (header, rest) := BlockHeader.read (c.rest.drop 1)
  let c := c.moveTo rest
  let ending := c.passSpaces.passComment
  if !isWordEnd c.rest || !isLineEnd ending.rest then .error .malformed
  else
    let first := ending.next
    let fuel := first.rest.length + 1
    let body := match header.depth with
      | some depth =>
        let indent := least + depth - 1
        let (breaks, c) := emptyLines indent fuel first
        blockLines isFolded indent fuel [] breaks c
      | none =>
        let (breaks, deepest, c) := leadingLines 0 fuel first
        blockLines isFolded (max least deepest) fuel [] breaks c
    .ok (body.chomped header.chomping, body.after)

end DesignRules.Yaml
