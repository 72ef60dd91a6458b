/-! # Places in a document

A cursor is the rest of a document with the place where it starts.
-/

namespace DesignRules.Yaml

/-- Why a document has no value. -/
inductive Fault where
  | malformed
  /-- A number, a date or a character code has the right form and does not exist. -/
  | badValue
  /-- A number is too large to be looked at. -/
  | oversized
  /-- What is marked as a flag is none of the words for one. -/
  | unknownWord
  /-- What is marked as a number has no characters. -/
  | emptyNumber
  /-- What is marked as a date has not its form. -/
  | notMoment
  deriving DecidableEq, Repr

structure Cursor where
  rest : List Char
  /-- The number of characters before the place. -/
  index : Nat
  line : Nat
  column : Nat
  deriving DecidableEq, Repr

def isBreak (c : Char) : Bool := c == '\n' || c == '\x85' || c == '\u2028' || c == '\u2029'

def isGapChar (c : Char) : Bool := c == ' ' || c == '\t' || isBreak c

/-- White space, a line break or the end of the document comes next. -/
def isGap (cs : List Char) : Bool := cs.head?.all isGapChar

/-- A space, a line break or the end of the document comes next. -/
def isWordEnd (cs : List Char) : Bool := cs.head?.all fun c => c == ' ' || isBreak c

/-- A line break or the end of the document comes next. -/
def isLineEnd (cs : List Char) : Bool := cs.head?.all isBreak

/-- The line breaks of a text: all but two separators are line feeds. -/
def breakText (c : Char) : Char := if c == '\x85' then '\n' else c

/-- Three equal marks and a gap come next. -/
def isMarker (mark : Char) : List Char → Bool
  | a :: b :: c :: rest => a == mark && b == mark && c == mark && isGap rest
  | _ => false

def isAnyMarker (cs : List Char) : Bool := isMarker '-' cs || isMarker '.' cs

namespace Cursor

def start (cs : List Char) : Cursor := ⟨cs, 0, 0, 0⟩

/-- Moves over one character; a byte-order mark takes no column. -/
def next (c : Cursor) : Cursor :=
  match c.rest with
  | [] => c
  | a :: rest =>
    if isBreak a then ⟨rest, c.index + 1, c.line + 1, 0⟩
    else ⟨rest, c.index + 1, c.line, if a == '\ufeff' then c.column else c.column + 1⟩

def drop : Nat → Cursor → Cursor
  | 0, c => c
  | n + 1, c => drop n c.next

/-- Moves to a rest that is a tail of what lies ahead. -/
def moveTo (c : Cursor) (rest : List Char) : Cursor := c.drop (c.rest.length - rest.length)

/-- Moves over the characters of a kind. -/
def pass (kind : Char → Bool) (c : Cursor) : Cursor := c.drop (c.rest.takeWhile kind).length

def passSpaces (c : Cursor) : Cursor := c.pass (· == ' ')

def passComment (c : Cursor) : Cursor :=
  if c.rest.head? = some '#' then c.pass fun a => !isBreak a else c

/-- A line starts here with a marker. -/
def atMarker (mark : Char) (c : Cursor) : Bool := c.column == 0 && isMarker mark c.rest

end Cursor

/-- The text that line breaks between two words stand for: a single one a space, of
several the first is dropped. -/
def foldBreaks : List Char → List Char
  | [] => []
  | '\n' :: [] => [' ']
  | '\n' :: more => more
  | more => more

end DesignRules.Yaml
