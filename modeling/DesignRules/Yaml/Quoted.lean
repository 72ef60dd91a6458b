import DesignRules.Numeral
import DesignRules.Text.Chars
import DesignRules.Yaml.Cursor

/-! # Quoted scalars

Scalars in single quotes, where a quote is doubled, and in double quotes, where escapes
stand for characters. Line breaks inside them are folded.
-/

namespace DesignRules.Yaml

/-- A part of a quoted scalar. -/
inductive Piece where
  | char (c : Char)
  | space (c : Char)
  | lineBreak (c : Char)
  /-- A line break that is escaped: it joins two lines. -/
  | join
  deriving DecidableEq, Repr

abbrev Pieces := Except Fault (List Piece × List Char)

/-- The piece that `c` is before `rest`. No line of a scalar may start with a marker. -/
def pieceOf (c : Char) (rest : List Char) : Except Fault Piece :=
  if isBreak c then
    if isAnyMarker rest then .error .malformed else .ok (.lineBreak (breakText c))
  else if c == ' ' || c == '\t' then .ok (.space c)
  else .ok (.char c)

/-- The pieces up to the closing quote, and the rest after it. -/
def singlePieces : List Char → Pieces
  | [] => .error .malformed
  | '\'' :: '\'' :: rest => do
    let (pieces, rest) ← singlePieces rest
    return (.char '\'' :: pieces, rest)
  | '\'' :: rest => .ok ([], rest)
  | c :: rest => do
    let piece ← pieceOf c rest
    let (pieces, rest) ← singlePieces rest
    return (piece :: pieces, rest)

/-- The characters that are written as one character after a backslash. -/
def shortEscapes : List (Char × Char) :=
  [('0', '\x00'), ('a', '\x07'), ('b', '\x08'), ('t', '\t'), ('\t', '\t'), ('n', '\n'),
   ('v', '\x0b'), ('f', '\x0c'), ('r', '\r'), ('e', '\x1b'), (' ', ' '), ('"', '"'),
   ('\\', '\\'), ('/', '/'), ('N', '\x85'), ('_', '\xa0'), ('L', '\u2028'), ('P', '\u2029')]

def isHexDigit (c : Char) : Bool := decide (c.toNat < 0x80) && (Numeral.hexDigit? c).isSome

/-- The number of digits after an escape that names a code. -/
def codeLength? : Char → Option Nat
  | 'x' => some 2
  | 'u' => some 4
  | 'U' => some 8
  | _ => none

/-- From here on a code is not even compared with the largest one. -/
def codeLimit : Nat := Nat.pow 2 31

/-- The character of a code. A half of a surrogate pair stays on its own. -/
def coded (code : Nat) : Except Fault Char :=
  if code < 0x110000 then .ok (Text.ofCode code)
  else if code < codeLimit then .error .badValue
  else .error .oversized

/-- The piece that an escape stands for, after its backslash. -/
def escape : List Char → Except Fault (Piece × List Char)
  | [] => .error .malformed
  | c :: rest =>
    match shortEscapes.lookup c, codeLength? c with
    | some d, _ => .ok (.char d, rest)
    | none, some count =>
      let digits := rest.take count
      if digits.length = count && digits.all isHexDigit then
        (coded (Numeral.ofDigits 16 (digits.filterMap Numeral.hexDigit?))).map
          fun d => (.char d, rest.drop count)
      else .error .malformed
    | none, none =>
      if isBreak c && !isAnyMarker rest then .ok (.join, rest) else .error .malformed

/-- The pieces up to the closing quote. Each takes a character, so `fuel` may be more than
the length of the rest. -/
def doublePieces : Nat → List Char → Pieces
  | 0, _ | _ + 1, [] => .error .malformed
  | _ + 1, '"' :: rest => .ok ([], rest)
  | fuel + 1, '\\' :: rest => do
    let (piece, rest) ← escape rest
    let (pieces, rest) ← doublePieces fuel rest
    return (piece :: pieces, rest)
  | fuel + 1, c :: rest => do
    let piece ← pieceOf c rest
    let (pieces, rest) ← doublePieces fuel rest
    return (piece :: pieces, rest)

/-- White space under way inside a quoted scalar: the spaces since the last character and
the line breaks among them. After a join only the breaks count. -/
structure Blank where
  spaces : List Char
  breaks : List Char
  isJoined : Bool
  deriving Repr

namespace Blank

def empty : Blank := ⟨[], [], false⟩

def text (b : Blank) : List Char :=
  if b.isJoined then b.breaks
  else if b.breaks.isEmpty then b.spaces
  else foldBreaks b.breaks

end Blank

/-- The text of a quoted scalar with its line breaks folded. -/
def foldPieces (blank : Blank) : List Piece → List Char
  | [] => blank.text
  | .char c :: rest => blank.text ++ c :: foldPieces .empty rest
  | .space c :: rest => foldPieces { blank with spaces := blank.spaces ++ [c] } rest
  | .lineBreak c :: rest => foldPieces { blank with breaks := blank.breaks ++ [c] } rest
  | .join :: rest => blank.text ++ foldPieces ⟨[], [], true⟩ rest

/-- The text of the quoted scalar at a place and the place after it. -/
def quotedScalar (c : Cursor) : Except Fault (List Char × Cursor) := do
  let (pieces, rest) ← match c.rest with
    | '\'' :: rest => singlePieces rest
    | '"' :: rest => doublePieces (rest.length + 1) rest
    | _ => .error .malformed
  return (foldPieces .empty pieces, c.moveTo rest)

end DesignRules.Yaml
