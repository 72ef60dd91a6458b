import DesignRules.Datum
import DesignRules.Yaml.Quoted
import DesignRules.Yaml.Scalar

/-! # Writing YAML

Values are written in block style, with the fields of an object in their order. A text
stands for itself if it reads back as a text; otherwise it is quoted. Once a line is
wider than eighty columns, a text goes on in the next line.
-/

namespace DesignRules.Yaml

def width : Nat := 80

def newLine (indent : Nat) : List Char := '\n' :: List.replicate indent ' '

/-! ## Styles of a text -/

inductive Style where
  | plain
  | singleQuoted
  | doubleQuoted
  deriving DecidableEq, Repr

/-- A character stands for itself inside a plain or single-quoted text. -/
def isVisible (c : Char) : Bool :=
  let n := c.toNat
  !Text.isHalfMark c && (n == 10 || (0x20 ≤ n && n ≤ 0x7e) || n == 0x85 ||
    (0xa0 ≤ n && n ≤ 0xfffd && n != 0xfeff) || (0x10000 ≤ n && n < 0x10ffff))

/-- The characters that cannot start a plain text whatever follows. -/
def indicators : List Char := "#,[]\x7b\x7d&*!|>'\"%@\x60".toList

/-- A character has a meaning of its own at the start of a text before `rest`. -/
def isLeadingMark (c : Char) (rest : List Char) : Bool :=
  indicators.contains c || ((c == '-' || c == '?' || c == ':') && isGap rest)

/-- A colon before a gap or a number sign after one stands inside a text. -/
def hasInnerMark (afterGap : Bool) : List Char → Bool
  | [] => false
  | c :: rest =>
    (c == ':' && isGap rest) || (c == '#' && afterGap) || hasInnerMark (isGapChar c) rest

def startsMarker (cs : List Char) : Bool :=
  "---".toList.isPrefixOf cs || "...".toList.isPrefixOf cs

/-- A text on one line has no character with a meaning of its own. -/
def hasPlainForm : List Char → Bool
  | [] => true
  | c :: rest =>
    c != ' ' && (c :: rest).getLast? != some ' ' && !startsMarker (c :: rest) &&
      !isLeadingMark c rest && !hasInnerMark (isGapChar c) rest && !(c :: rest).any isBreak

/-- A line break stands next to a space. -/
def hasRaggedBreak : List Char → Bool
  | a :: b :: rest =>
    (isBreak a && b == ' ') || (a == ' ' && isBreak b) || hasRaggedBreak (b :: rest)
  | _ => false

def styleOf (s : String) : Style :=
  if !s.toList.all isVisible || hasRaggedBreak s.toList then .doubleQuoted
  else if kindOf s = .text ∧ hasPlainForm s.toList then .plain
  else .singleQuoted

/-! ## Folding -/

/-- Writes a text from a column on. A single space between two characters becomes a new
line once the line is too wide, and a line feed is doubled. -/
def folded (indent : Nat) : Nat → Option Char → List Char → List Char
  | _, _, [] => []
  | column, before, c :: rest =>
    if c == ' ' then
      if width < column && before.any (· != ' ') && rest.head?.any (· != ' ') then
        newLine indent ++ folded indent indent (some c) rest
      else c :: folded indent (column + 1) (some c) rest
    else if isBreak c then
      (if c == '\n' && !before.any isBreak then ['\n', c] else [c]) ++
        if rest.head?.any isBreak then folded indent 0 (some c) rest
        else List.replicate indent ' ' ++ folded indent indent (some c) rest
    else c :: folded indent (column + 1) (some c) rest

def doubleQuote (c : Char) : List Char := if c = '\'' then ['\'', '\''] else [c]

def singleQuotedForm (indent column : Nat) (cs : List Char) : List Char :=
  '\'' :: folded indent (column + 1) none (cs.flatMap doubleQuote) ++ ['\'']

/-! ## Double quotes -/

/-- A character stands for itself inside double quotes. -/
def isLiteral (c : Char) : Bool :=
  let n := c.toNat
  c != '"' && c != '\\' && c != '\u2028' && c != '\u2029' && c != '\ufeff' &&
    ((0x20 ≤ n && n ≤ 0x7e) || (0xa0 ≤ n && n ≤ 0xfffd))

def capitalHex (count n : Nat) : List Char := (Text.hexDigits count n).map Char.toUpper

def escaped (c : Char) : List Char :=
  match shortEscapes.find? (·.2 == c) with
  | some e => ['\\', e.1]
  | none =>
    let n := Text.code c
    if n ≤ 0xff then '\\' :: 'x' :: capitalHex 2 n
    else if n ≤ 0xffff then '\\' :: 'u' :: capitalHex 4 n
    else '\\' :: 'U' :: capitalHex 8 n

/-- An escaped line break, after which a space at the start of the line is escaped too. -/
def brokenLine (indent : Nat) (rest : List Char) : List Char :=
  '\\' :: newLine indent ++ if rest.head? = some ' ' then ['\\'] else []

/-- The column after a broken line. -/
def brokenColumn (indent : Nat) (rest : List Char) : Nat :=
  if rest.head? = some ' ' then indent + 1 else indent

/-- Writes the characters between double quotes from a column on. A line that is too wide
is broken before a space or next to an escape, but not at either end of the text. -/
def doubleQuotedFrom (indent : Nat) : Nat → Bool → Bool → List Char → List Char
  | _, _, _, [] => []
  | column, isFirst, afterEscape, c :: rest =>
    let isInner := !isFirst && !rest.isEmpty
    if isLiteral c then
      if isInner && (c == ' ' || afterEscape) && width < column then
        brokenLine indent (c :: rest) ++
          c :: doubleQuotedFrom indent (brokenColumn indent (c :: rest) + 1) false false rest
      else c :: doubleQuotedFrom indent (column + 1) false false rest
    else
      let column := column + (escaped c).length
      if isInner && width + 1 < column then
        escaped c ++ brokenLine indent rest ++
          doubleQuotedFrom indent (brokenColumn indent rest) false true rest
      else escaped c ++ doubleQuotedFrom indent column false true rest

def doubleQuotedForm (indent column : Nat) (cs : List Char) : List Char :=
  '"' :: doubleQuotedFrom indent (column + 1) true false cs ++ ['"']

/-! ## Values -/

/-- A text that starts at a column and goes on in lines with an indent. -/
def textForm (indent column : Nat) (s : String) : List Char :=
  match styleOf s with
  | .plain => folded indent column none s.toList
  | .singleQuoted => singleQuotedForm indent column s.toList
  | .doubleQuoted => doubleQuotedForm indent column s.toList

/-- A float has a point, also before an exponent. -/
def floatText (x : Binary64) : List Char :=
  match x with
  | .nan => ".nan".toList
  | .infinite negative => if negative then "-.inf".toList else ".inf".toList
  | x =>
    let written := x.text.toList
    if written.contains '.' then written
    else written.flatMap fun c => if c = 'e' then ".0e".toList else [c]

def scalarForm (indent column : Nat) : Datum → List Char
  | .bool b => if b then "true".toList else "false".toList
  | .int n => (Numeral.decimal n).toList
  | .float x => floatText x
  | .text s => textForm indent column s
  | _ => "null".toList

mutual

/-- A value after a key, which ends at a column, in a mapping with an indent. -/
def afterKey (indent column : Nat) : Datum → List Char
  | .list [] => " []".toList
  | .list (item :: rest) => newLine indent ++ itemLines indent (item :: rest)
  | .object [] => " \x7b\x7d".toList
  | .object (field :: rest) => newLine (indent + 2) ++ fieldLines (indent + 2) (field :: rest)
  | value => ' ' :: scalarForm (indent + 2) (column + 1) value

/-- A value after a dash in a sequence with an indent. -/
def afterDash (indent : Nat) : Datum → List Char
  | .list [] => " []".toList
  | .list (item :: rest) => ' ' :: itemLines (indent + 2) (item :: rest)
  | .object [] => " \x7b\x7d".toList
  | .object (field :: rest) => ' ' :: fieldLines (indent + 2) (field :: rest)
  | value => ' ' :: scalarForm (indent + 2) (indent + 2) value

def itemLines (indent : Nat) : List Datum → List Char
  | [] => []
  | item :: rest =>
    '-' :: afterDash indent item ++ (if rest.isEmpty then [] else newLine indent) ++
      itemLines indent rest

/-- The keys are plain words and stand for themselves. -/
def fieldLines (indent : Nat) : List (Scalar × Datum) → List Char
  | [] => []
  | (key, value) :: rest =>
    let name := key.display.toList
    name ++ ':' :: afterKey indent (indent + name.length + 1) value ++
      (if rest.isEmpty then [] else newLine indent) ++ fieldLines indent rest

end

/-- A document that is a mapping. -/
def write (given : Fields) : String := String.ofList (fieldLines 0 given ++ ['\n'])

end DesignRules.Yaml
