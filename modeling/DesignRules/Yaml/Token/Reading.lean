import DesignRules.Yaml.Block
import DesignRules.Yaml.Plain
import DesignRules.Yaml.Token.Basic

/-! # Splitting a document into tokens

A key is known as such only by the colon after it. So the place of the last token that may
start a key is kept for every open bracket, and a colon puts the mark of a key there.
-/

namespace DesignRules.Yaml

/-- The place of a token that may be the start of a key. -/
structure KeyPlace where
  /-- The number of tokens before it. -/
  position : Nat
  /-- Nothing but a key can stand there. -/
  isRequired : Bool
  index : Nat
  line : Nat
  column : Nat
  deriving Repr

/-- How far a document has been split. -/
structure Scan where
  place : Cursor
  /-- The tokens so far, the last one first. -/
  tokens : List Token
  /-- The columns of the open blocks, the innermost first. -/
  indents : List Nat
  /-- The last place for a key inside the innermost bracket. -/
  candidate : Option KeyPlace
  /-- The places for keys outside it, one for every open bracket. -/
  outer : List (Option KeyPlace)
  /-- A key may start here. -/
  allowsKey : Bool

abbrev Scanned := Except Fault Scan

namespace Scan

def start (cs : List Char) : Scan :=
  let place := Cursor.start cs
  ⟨if cs.head? = some '\ufeff' then place.next else place, [], [], none, [], true⟩

def inFlow (s : Scan) : Bool := !s.outer.isEmpty

/-- The least column of what belongs to the innermost block. -/
def least (s : Scan) : Nat := (s.indents.head?.map (· + 1)).getD 0

def emit (s : Scan) (t : Token) : Scan := { s with tokens := t :: s.tokens }

/-- Adds the token for the next characters. -/
def take (s : Scan) (count : Nat) (t : Token) : Scan :=
  { s.emit t with place := s.place.drop count }

/-! ## Blocks -/

/-- Ends the blocks that are indented further than a column. -/
def closeTo (column : Nat) (s : Scan) : Scan :=
  let isInner := fun indent => decide (column < indent)
  let closed : List Token := (s.indents.takeWhile isInner).map fun _ => .close
  if s.inFlow then s
  else { s with tokens := closed ++ s.tokens, indents := s.indents.dropWhile isInner }

def closeAll (s : Scan) : Scan :=
  let closed : List Token := s.indents.map fun _ => .close
  if s.inFlow then s else { s with tokens := closed ++ s.tokens, indents := [] }

/-- Puts a token where there are `position` tokens before it. -/
def insertAt (position : Nat) (t : Token) (s : Scan) : Scan :=
  let after := s.tokens.length - position
  { s with tokens := s.tokens.take after ++ t :: s.tokens.drop after }

/-- Outside brackets, opens a block at a column that is indented further than the block
around it. -/
def openBlock (column position : Nat) (t : Token) (s : Scan) : Scan :=
  if s.inFlow || !decide (s.least ≤ column) then s
  else { s.insertAt position t with indents := column :: s.indents }

/-- Opens a block at the place. -/
def openHere (t : Token) (s : Scan) : Scan := s.openBlock s.place.column s.tokens.length t

/-! ## Places for keys -/

/-- A key ends on its line, at most so many characters after its start. -/
def keyLimit : Nat := 1024

def isStale (s : Scan) (k : KeyPlace) : Bool :=
  k.line != s.place.line || decide (k.index + keyLimit < s.place.index)

/-- Forgets the places that are too far away for a key. -/
def forgetStale (s : Scan) : Scanned :=
  let fresh := fun (k : Option KeyPlace) => k.filter fun k => !s.isStale k
  if (s.candidate :: s.outer).any fun k => k.any fun k => k.isRequired && s.isStale k then
    .error .malformed
  else .ok { s with candidate := fresh s.candidate, outer := s.outer.map fresh }

/-- Forgets the place inside the innermost bracket. -/
def forget (s : Scan) : Scanned :=
  if s.candidate.any (·.isRequired) then .error .malformed
  else .ok { s with candidate := none }

/-- The next token may start a key; after it none may. -/
def mark (s : Scan) : Scanned :=
  if !s.allowsKey then .ok s
  else do
    let c := s.place
    let isRequired := !s.inFlow && s.indents.head? == some c.column
    let s ← s.forget
    return { s with
      candidate := some ⟨s.tokens.length, isRequired, c.index, c.line, c.column⟩
      allowsKey := false }

/-! ## Tokens -/

/-- Adds a token that ends what comes before it. -/
def separate (count : Nat) (t : Token) (allowsKey : Bool) (s : Scan) : Scanned := do
  let s ← s.forget
  return { s.take count t with allowsKey }

/-- What is written at the left margin between documents. -/
def takeMarker (t : Token) (s : Scan) : Scanned := s.closeAll.separate 3 t false

def takeDirective (s : Scan) : Scanned := do
  let s ← s.closeAll.forget
  let (directive, after) ← directiveAt s.place
  return { s.emit (.directive directive) with place := after, allowsKey := false }

def openFlow (t : Token) (s : Scan) : Scanned := do
  let s ← s.mark
  return { s.take 1 t with candidate := none, outer := s.candidate :: s.outer, allowsKey := true }

def closeFlow (t : Token) (s : Scan) : Scanned :=
  match s.outer with
  | [] => .error .malformed
  | candidate :: outer => .ok { s.take 1 t with candidate, outer, allowsKey := false }

/-- A dash or a question mark, with which a line of a block starts. -/
def takeMark (block t : Token) (allowsKey : Bool) (s : Scan) : Scanned :=
  if !s.inFlow && !s.allowsKey then .error .malformed
  else (s.openHere block).separate 1 t allowsKey

def takeColon (s : Scan) : Scanned :=
  match s.candidate with
  | some k =>
    let s := (s.insertAt k.position .key).openBlock k.column k.position .fields
    .ok { s.take 1 .colon with candidate := none, allowsKey := false }
  | none => s.takeMark .fields .colon (!s.inFlow)

def takeNamed (token : String → Token) (s : Scan) : Scanned := do
  let s ← s.mark
  let (name, after) ← anchorName s.place
  return { s.emit (token name) with place := after, allowsKey := false }

def takeTag (s : Scan) : Scanned := do
  let s ← s.mark
  let (tag, after) ← tagAt s.place
  return { s.emit (.tag tag) with place := after, allowsKey := false }

def takeBlockScalar (isFolded : Bool) (s : Scan) : Scanned := do
  let s ← s.forget
  let (text, after) ← blockScalar isFolded (max 1 s.least) s.place
  return { s.emit (.scalar (String.ofList text) false) with place := after, allowsKey := true }

def takeQuoted (s : Scan) : Scanned := do
  let s ← s.mark
  let (text, after) ← quotedScalar s.place
  return { s.emit (.scalar (String.ofList text) false) with place := after, allowsKey := false }

def takePlain (s : Scan) : Scanned := do
  let s ← s.mark
  let (text, gap) := plainScalar s.inFlow s.least (s.place.rest.length + 1) s.place
  return { s.emit (.scalar (String.ofList text) true) with
    place := gap.after
    allowsKey := gap.isBroken }

/-- Adds the token that starts at the place with `c` before `rest`. -/
def takeNext (c : Char) (rest : List Char) (s : Scan) : Scanned :=
  if c == '%' && s.place.column == 0 then s.takeDirective
  else if s.place.atMarker '-' then s.takeMarker .start
  else if s.place.atMarker '.' then s.takeMarker .finish
  else if c == '[' then s.openFlow .openBracket
  else if c == '\x7b' then s.openFlow .openBrace
  else if c == ']' then s.closeFlow .closeBracket
  else if c == '\x7d' then s.closeFlow .closeBrace
  else if c == ',' then s.separate 1 .comma true
  else if c == '-' && isGap rest then s.takeMark .items .dash true
  else if c == '?' && (s.inFlow || isGap rest) then s.takeMark .fields .key (!s.inFlow)
  else if c == ':' && (s.inFlow || isGap rest) then s.takeColon
  else if c == '*' then s.takeNamed .alias
  else if c == '&' then s.takeNamed .anchor
  else if c == '!' then s.takeTag
  else if c == '|' && !s.inFlow then s.takeBlockScalar false
  else if c == '>' && !s.inFlow then s.takeBlockScalar true
  else if c == '\'' || c == '"' then s.takeQuoted
  else if startsPlain s.inFlow (c :: rest) then s.takePlain
  else .error .malformed

/-! ## The whole document -/

/-- Moves over spaces, comments and line breaks, after which a key may start outside
brackets. Each round takes a line. -/
def skip : Nat → Scan → Scan
  | 0, s => s
  | fuel + 1, s =>
    let place := s.place.passSpaces.passComment
    if place.rest.head?.any isBreak then
      skip fuel { s with place := place.next, allowsKey := s.allowsKey || !s.inFlow }
    else { s with place }

/-- All tokens of the document. Each takes a character, so `fuel` may be more than the
length of the rest. -/
def all : Nat → Scan → List Token
  | 0, s => s.tokens.reverse
  | fuel + 1, s =>
    let s := s.skip (s.place.rest.length + 1)
    let next : Scanned := s.forgetStale >>= fun s =>
      match s.place.rest with
      | [] => s.closeAll.forget
      | c :: rest => (s.closeTo s.place.column).takeNext c rest
    match next with
    | .error f => (Token.fault f :: s.tokens).reverse
    | .ok next => if s.place.rest.isEmpty then next.tokens.reverse else all fuel next

end Scan

/-- The tokens of a text, of which only the last can be a fault. -/
def Token.ofText (cs : List Char) : List Token := (Scan.start cs).all (cs.length + 1)

end DesignRules.Yaml
