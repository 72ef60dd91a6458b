import DesignRules.Text.Utf8
import DesignRules.Yaml.Quoted

/-! # Names, tags and directives

An anchor gives a node a name, a tag asks for its kind, and a directive in front of a
document tells what the tags in it mean.
-/

namespace DesignRules.Yaml

def isNameChar (c : Char) : Bool := c.isAlphanum || c == '-' || c == '_'

/-- The characters that may follow the name of an anchor. -/
def endsName (cs : List Char) : Bool :=
  cs.head?.all fun c => isGapChar c || "?:,]\x7d%@\x60".toList.contains c

/-- The name after the mark at a place, and the place after it. -/
def anchorName (c : Cursor) : Except Fault (String × Cursor) :=
  let name := c.next.rest.takeWhile isNameChar
  let after := c.drop (name.length + 1)
  if name.isEmpty || !endsName after.rest then .error .malformed
  else .ok (String.ofList name, after)

/-! ## Tags -/

/-- A tag that is given in full has no handle. -/
structure Tag where
  handle : Option String
  suffix : String
  deriving DecidableEq, Repr

def isUriChar (c : Char) : Bool := c.isAlphanum || "-;/?:@&=+$,_.!~*'()[]".toList.contains c

def hexNumber (ds : List Char) : Nat := Numeral.ofDigits 16 (ds.filterMap Numeral.hexDigit?)

/-- The longest text of a tag, in which two digits after a percent sign stand for an
octet, and the rest after it. The octets are those right before. -/
def uriFrom (octets : List Nat) : List Char → Except Fault (List Char × List Char)
  | '%' :: a :: b :: rest =>
    if isHexDigit a && isHexDigit b then uriFrom (octets ++ [hexNumber [a, b]]) rest
    else .error .malformed
  | c :: rest =>
    if !Text.Utf8.isWhole octets || c == '%' then .error .malformed
    else if isUriChar c then
      (uriFrom [] rest).map fun (more, rest) => (Text.Utf8.decode octets ++ c :: more, rest)
    else .ok (Text.Utf8.decode octets, c :: rest)
  | [] =>
    if Text.Utf8.isWhole octets then .ok (Text.Utf8.decode octets, []) else .error .malformed

def uri (cs : List Char) : Except Fault (String × List Char) := do
  let (text, rest) ← uriFrom [] cs
  if rest.length = cs.length then .error .malformed else return (String.ofList text, rest)

/-- One mark, or two with a name between them. -/
def tagHandle : List Char → Except Fault (String × List Char)
  | '!' :: ' ' :: rest => .ok ("!", ' ' :: rest)
  | '!' :: rest =>
    match rest.dropWhile isNameChar with
    | '!' :: after => .ok (String.ofList ('!' :: rest.takeWhile isNameChar ++ ['!']), after)
    | _ => .error .malformed
  | _ => .error .malformed

/-- The tag after its mark. -/
def tagText (rest : List Char) : Except Fault (Tag × List Char) :=
  match rest with
  | '<' :: rest => do
    match ← uri rest with
    | (suffix, '>' :: rest) => return (⟨none, suffix⟩, rest)
    | _ => .error .malformed
  | rest => do
    if isGap rest then return (⟨none, "!"⟩, rest)
    let word := rest.takeWhile fun c => c != ' ' && !isBreak c
    let (handle, rest) ← if word.contains '!' then tagHandle ('!' :: rest) else .ok ("!", rest)
    let (suffix, rest) ← uri rest
    return (⟨some handle, suffix⟩, rest)

/-- The tag at a place and the place after it. -/
def tagAt (c : Cursor) : Except Fault (Tag × Cursor) := do
  let (tag, rest) ← tagText (c.rest.drop 1)
  if isWordEnd rest then return (tag, c.moveTo rest) else .error .malformed

/-! ## Directives -/

inductive Directive where
  /-- The major version of the language. -/
  | version (major : Nat)
  /-- What a handle stands for. -/
  | handle (name meaning : String)
  | other
  deriving DecidableEq, Repr

def versionNumber (cs : List Char) : Except Fault (Nat × List Char) :=
  let digits := cs.takeWhile Char.isDigit
  match Numeral.decimalRun? digits with
  | some n => .ok (n, cs.dropWhile Char.isDigit)
  | none => .error (if digits.isEmpty then .malformed else .badValue)

/-- Two numbers with a point between them. -/
def versionText (cs : List Char) : Except Fault (Directive × List Char) := do
  match ← versionNumber cs with
  | (major, '.' :: rest) =>
    let (_, rest) ← versionNumber rest
    if isWordEnd rest then return (.version major, rest) else .error .malformed
  | _ => .error .malformed

def handleText (cs : List Char) : Except Fault (Directive × List Char) := do
  match ← tagHandle cs with
  | (name, ' ' :: rest) =>
    let (meaning, rest) ← uri (rest.dropWhile (· == ' '))
    if isWordEnd rest then return (.handle name meaning, rest) else .error .malformed
  | _ => .error .malformed

/-- The directive at a place and the start of the next line. -/
def directiveAt (c : Cursor) : Except Fault (Directive × Cursor) := do
  let name := c.next.rest.takeWhile isNameChar
  let rest := c.rest.drop (name.length + 1)
  if name.isEmpty || !isWordEnd rest then .error .malformed
  let more := rest.dropWhile (· == ' ')
  let (directive, rest) ←
    if name = "YAML".toList then versionText more
    else if name = "TAG".toList then handleText more
    else .ok (.other, rest.dropWhile fun a => !isBreak a)
  let ending := (c.moveTo rest).passSpaces.passComment
  if isLineEnd ending.rest then return (directive, ending.next) else .error .malformed

end DesignRules.Yaml
