import DesignRules.Yaml.Scalar
import DesignRules.Yaml.Token.Basic

/-! # Nodes of a document

The tree of scalars, sequences and mappings that the tokens of a document spell out. An
alias stands for the node with its anchor, which must be complete before it.
-/

namespace DesignRules.Yaml

inductive Node where
  | scalar (kind : Kind) (text : String)
  | sequence (kind : Kind) (items : List Node)
  | mapping (kind : Kind) (entries : List (Node × Node))
  deriving Repr

namespace Node

/-- What stands where a node is left out. -/
def empty : Node := .scalar .null ""

/-! ## Tags -/

/-- What the handles of tags stand for. -/
abbrev Handles := List (String × String)

def standardTags : String := "tag:yaml.org,2002:"

def standardHandles : Handles := [("!", "!"), ("!!", standardTags)]

def standardKinds : List (String × Kind) :=
  [("null", .null), ("bool", .flag), ("int", .integer), ("float", .float),
   ("timestamp", .moment), ("str", .text), ("merge", .merge), ("value", .default),
   ("seq", .sequence), ("map", .mapping)]

def kindOfTag (tag : String) : Kind :=
  ((standardKinds.find? fun entry => standardTags ++ entry.1 == tag).map (·.2)).getD .unknown

/-- The tag with its handle written out. -/
def fullTag (handles : Handles) (t : Tag) : Except Fault String :=
  match t.handle with
  | none => .ok t.suffix
  | some handle =>
    match handles.lookup handle with
    | some meaning => .ok (meaning ++ t.suffix)
    | none => .error .malformed

/-! ## Properties -/

/-- What may be written before a node. -/
structure Properties where
  anchor : Option String
  tag : Option Tag

def Properties.fullTag (handles : Handles) (p : Properties) : Except Fault (Option String) :=
  match p.tag with
  | none => .ok none
  | some t => (Node.fullTag handles t).map some

def properties : List Token → Properties × List Token
  | .anchor name :: .tag t :: rest | .tag t :: .anchor name :: rest => (⟨name, t⟩, rest)
  | .anchor name :: rest => (⟨name, none⟩, rest)
  | .tag t :: rest => (⟨none, t⟩, rest)
  | rest => (⟨none, none⟩, rest)

/-- The tag that asks for no kind of its own, but for that of the plain form. -/
def bareTag : String := "!"

/-- The kind that a tag asks for. -/
def asked? (tag : Option String) : Option Kind :=
  (tag.filter (· != bareTag)).map kindOfTag

def scalarOf (tag : Option String) (isPlain : Bool) (text : String) : Node :=
  let own := if isPlain || tag == some bareTag then kindOf text else .text
  .scalar ((asked? tag).getD own) text

/-! ## Reading tokens -/

/-- The tokens that lie ahead and the nodes that have an anchor. -/
structure Ahead where
  tokens : List Token
  anchors : List (String × Node)

def Ahead.at (s : Ahead) (tokens : List Token) : Ahead := { s with tokens }

/-- The fault of tokens that do not fit. -/
def faultOf : List Token → Fault
  | .fault f :: _ => f
  | _ => .malformed

def startsWith (marks tokens : List Token) : Bool := tokens.head?.any marks.contains

/-- Gives a node its name, which no other node may have. -/
def Ahead.name (s : Ahead) (anchor : Option String) (n : Node) : Except Fault (Node × Ahead) :=
  match anchor with
  | none => .ok (n, s)
  | some name =>
    if (s.anchors.lookup name).isSome then .error .malformed
    else .ok (n, { s with anchors := (name, n) :: s.anchors })

def Ahead.comma (s : Ahead) : Except Fault Ahead :=
  match s.tokens with
  | .comma :: rest => .ok (s.at rest)
  | tokens => .error (faultOf tokens)

/-- Where a node stands. -/
inductive Position where
  | flow
  | block
  /-- In a field, where the dashes of a sequence need no indent. -/
  | field
  deriving DecidableEq

abbrev OneFound := Except Fault (Node × Ahead)

abbrev ItemsFound := Except Fault (List Node × Ahead)

abbrev EntriesFound := Except Fault (List (Node × Node) × Ahead)

mutual

/-- Each round takes a token or hands over to another function, so `fuel` may be four times
the number of tokens. -/
def node (handles : Handles) : Nat → Position → Ahead → OneFound
  | 0, _, _ => .error .malformed
  | fuel + 1, position, s =>
    match s.tokens with
    | .alias name :: rest =>
      match s.anchors.lookup name with
      | some n => .ok (n, s.at rest)
      | none => .error .malformed
    | tokens => do
      let (given, rest) := properties tokens
      let tag ← given.fullTag handles
      let (n, s) ← content handles fuel position tag (rest.length < tokens.length) (s.at rest)
      s.name given.anchor n

/-- A node after its properties; if there are some, it may be empty. -/
def content (handles : Handles) :
    Nat → Position → Option String → Bool → Ahead → OneFound
  | 0, _, _, _, _ => .error .malformed
  | fuel + 1, position, tag, mayBeEmpty, s =>
    match s.tokens with
    | .scalar text isPlain :: rest => .ok (scalarOf tag isPlain text, s.at rest)
    | .openBracket :: rest => do
      let (items, s) ← flowItems handles fuel true (s.at rest)
      return (.sequence ((asked? tag).getD .sequence) items, s)
    | .openBrace :: rest => do
      let (entries, s) ← flowFields handles fuel true (s.at rest)
      return (.mapping ((asked? tag).getD .mapping) entries, s)
    | tokens => do
      if position = .field && startsWith [.dash] tokens then
        let (items, s) ← dashes handles fuel s
        return (.sequence ((asked? tag).getD .sequence) items, s)
      else if position ≠ .flow && startsWith [.items] tokens then
        let (items, s) ← blockItems handles fuel (s.at (tokens.drop 1))
        return (.sequence ((asked? tag).getD .sequence) items, s)
      else if position ≠ .flow && startsWith [.fields] tokens then
        let (entries, s) ← blockFields handles fuel (s.at (tokens.drop 1))
        return (.mapping ((asked? tag).getD .mapping) entries, s)
      else if mayBeEmpty then return (.scalar ((asked? tag).getD .null) "", s)
      else .error (faultOf tokens)

/-- A node, which is left out if one of the marks comes first. -/
def part (handles : Handles) :
    Nat → Position → List Token → Ahead → OneFound
  | 0, _, _, _ => .error .malformed
  | fuel + 1, position, marks, s =>
    if startsWith marks s.tokens then .ok (empty, s) else node handles fuel position s

/-- The items of a block. -/
def blockItems (handles : Handles) : Nat → Ahead → ItemsFound
  | 0, _ => .error .malformed
  | fuel + 1, s =>
    match s.tokens with
    | .dash :: rest => do
      let (item, s) ← part handles fuel .block [.dash, .close] (s.at rest)
      let (items, s) ← blockItems handles fuel s
      return (item :: items, s)
    | .close :: rest => .ok ([], s.at rest)
    | tokens => .error (faultOf tokens)

/-- Items at the indent of the fields around them, which are no block of their own. -/
def dashes (handles : Handles) : Nat → Ahead → ItemsFound
  | 0, _ => .error .malformed
  | fuel + 1, s =>
    match s.tokens with
    | .dash :: rest => do
      let (item, s) ← part handles fuel .block [.dash, .key, .colon, .close] (s.at rest)
      let (items, s) ← dashes handles fuel s
      return (item :: items, s)
    | _ => .ok ([], s)

/-- The fields of a block. -/
def blockFields (handles : Handles) : Nat → Ahead → EntriesFound
  | 0, _ => .error .malformed
  | fuel + 1, s =>
    match s.tokens with
    | .key :: rest => do
      let marks : List Token := [.key, .colon, .close]
      let (key, s) ← part handles fuel .field marks (s.at rest)
      let (value, s) ← match s.tokens with
        | .colon :: rest => part handles fuel .field marks (s.at rest)
        | _ => .ok (empty, s)
      let (entries, s) ← blockFields handles fuel s
      return ((key, value) :: entries, s)
    | .close :: rest => .ok ([], s.at rest)
    | tokens => .error (faultOf tokens)

/-- A key in brackets, after its mark, and the value after its colon. -/
def flowEntry (handles : Handles) : Nat → Token → Ahead → Except Fault ((Node × Node) × Ahead)
  | 0, _, _ => .error .malformed
  | fuel + 1, closing, s => do
    let (key, s) ← part handles fuel .flow [.colon, .comma, closing] s
    match s.tokens with
    | .colon :: rest =>
      let (value, s) ← part handles fuel .flow [.comma, closing] (s.at rest)
      return ((key, value), s)
    | _ => return ((key, empty), s)

/-- The items up to a closing bracket; a key with its value is an item of its own. -/
def flowItems (handles : Handles) : Nat → Bool → Ahead → ItemsFound
  | 0, _, _ => .error .malformed
  | fuel + 1, isFirst, s => do
    if startsWith [.closeBracket] s.tokens then return ([], s.at (s.tokens.drop 1))
    let s ← if isFirst then .ok s else s.comma
    match s.tokens with
    | .closeBracket :: rest => return ([], s.at rest)
    | .key :: rest =>
      let (entry, s) ← flowEntry handles fuel .closeBracket (s.at rest)
      let (items, s) ← flowItems handles fuel false s
      return (.mapping .mapping [entry] :: items, s)
    | _ =>
      let (item, s) ← node handles fuel .flow s
      let (items, s) ← flowItems handles fuel false s
      return (item :: items, s)

/-- The fields up to a closing brace; a node without a mark is a key without a value. -/
def flowFields (handles : Handles) : Nat → Bool → Ahead → EntriesFound
  | 0, _, _ => .error .malformed
  | fuel + 1, isFirst, s => do
    if startsWith [.closeBrace] s.tokens then return ([], s.at (s.tokens.drop 1))
    let s ← if isFirst then .ok s else s.comma
    match s.tokens with
    | .closeBrace :: rest => return ([], s.at rest)
    | .key :: rest =>
      let (entry, s) ← flowEntry handles fuel .closeBrace (s.at rest)
      let (entries, s) ← flowFields handles fuel false s
      return (entry :: entries, s)
    | _ =>
      let (key, s) ← node handles fuel .flow s
      let (entries, s) ← flowFields handles fuel false s
      return ((key, empty) :: entries, s)

end

/-! ## Documents -/

/-- The handles that directives define before a document; a version must be the first. -/
def directives (hasVersion : Bool) (given : Handles) :
    List Token → Except Fault (Handles × List Token)
  | .directive (.version major) :: rest =>
    if hasVersion || major != 1 then .error .malformed else directives true given rest
  | .directive (.handle name meaning) :: rest =>
    if (given.lookup name).isSome then .error .malformed
    else directives hasVersion ((name, meaning) :: given) rest
  | .directive .other :: rest => directives hasVersion given rest
  | rest => .ok (given, rest)

/-- A document has no content before such a token. -/
def isBoundary : Token → Bool
  | .directive _ | .start | .finish => true
  | _ => false

def root (handles : Handles) (tokens : List Token) : Except Fault (Node × List Token) := do
  let (n, s) ← node handles (4 * tokens.length + 8) .block ⟨tokens, []⟩
  return (n, s.tokens)

/-- The root of the only document, if there is one. -/
def ofTokens (tokens : List Token) : Except Fault (Option Node) := do
  if tokens.isEmpty then return none
  let (n, rest) ←
    if tokens.head?.any fun t => isBoundary t && t != .finish then do
      let (handles, rest) ← directives false [] tokens
      match rest with
      | .start :: rest =>
        if rest.head?.all isBoundary then .ok (empty, rest)
        else root (handles ++ standardHandles) rest
      | rest => .error (faultOf rest)
    else root standardHandles tokens
  match rest.dropWhile (· == .finish) with
  | [] => return some n
  | rest => .error (faultOf rest)

end Node

end DesignRules.Yaml
