import DesignRules.Numeral
import DesignRules.Pattern.Basic
import DesignRules.Text.Chars

/-! # Reading patterns

The written form of patterns: characters, classes, groups, alternatives, anchors and
repetitions. It is read from the left, and the first fault counts.
-/

namespace DesignRules.Pattern

/-- Why a text is no pattern. -/
inductive Fault where
  | malformed
  /-- A bound of a repetition is too large. -/
  | oversizedBound
  /-- A bound of a repetition has more digits than are read. -/
  | oversizedNumber
  deriving DecidableEq, Repr

inductive Token where
  | char (cls : CharClass)
  | anchor (p : Pattern)
  | opening
  | closing
  | bar
  | repetition (least : Nat) (most : Option Nat) (manner : Manner)
  deriving DecidableEq, Repr

abbrev Tail := List Char

def hexCode? (digits : List Char) : Option Char :=
  (Numeral.run? Numeral.hexDigit? 16 digits).map Text.ofCode

/-- The controls that are written as a letter after a backslash. -/
def controls : List (Char × Char) :=
  [('n', '\n'), ('t', '\t'), ('r', '\r'), ('f', '\x0c'), ('v', '\x0b'), ('a', '\x07')]

/-- The class or character that an escape stands for, after the backslash. -/
def escape? : Tail → Option (ClassItem × Tail)
  | 'd' :: cs => some (.digit false, cs)
  | 'D' :: cs => some (.digit true, cs)
  | 's' :: cs => some (.blank false, cs)
  | 'S' :: cs => some (.blank true, cs)
  | 'x' :: a :: b :: cs => (hexCode? [a, b]).map fun c => (.one c, cs)
  | 'u' :: a :: b :: c :: d :: cs => (hexCode? [a, b, c, d]).map fun c => (.one c, cs)
  | c :: cs =>
    match controls.lookup c with
    | some control => some (.one control, cs)
    | none => if c.isAlphanum then none else some (.one c, cs)
  | [] => none

def classAtom? : Tail → Option (ClassItem × Tail)
  | '\\' :: 'b' :: cs => some (.one '\x08', cs)
  | '\\' :: cs => escape? cs
  | c :: cs => some (.one c, cs)
  | [] => none

/-- The span from one single character to another that is not before it. -/
def spanOf? : ClassItem → ClassItem → Option ClassItem
  | .span a b, .span c d => if a = b ∧ c = d ∧ a ≤ c then some (.span a c) else none
  | _, _ => none

/-- The members of a class up to its closing bracket, which may not come first. -/
def classItems? : Nat → List ClassItem → Tail → Option (List ClassItem × Tail)
  | 0, _, _ => none
  | fuel + 1, items, cs =>
    match items, cs with
    | _ :: _, ']' :: rest => some (items.reverse, rest)
    | _, _ =>
      match classAtom? cs with
      | none => none
      | some (item, '-' :: ']' :: rest) => some ((.one '-' :: item :: items).reverse, rest)
      | some (item, '-' :: rest) =>
        match classAtom? rest with
        | none => none
        | some (last, rest) =>
          match spanOf? item last with
          | none => none
          | some span => classItems? fuel (span :: items) rest
      | some (item, rest) => classItems? fuel (item :: items) rest

def class? : Tail → Option (CharClass × Tail)
  | '^' :: cs => (classItems? (cs.length + 1) [] cs).map fun (items, rest) => (⟨true, items⟩, rest)
  | cs => (classItems? (cs.length + 1) [] cs).map fun (items, rest) => (⟨false, items⟩, rest)

def isAsciiDigit (c : Char) : Bool := decide ('0' ≤ c) && decide (c ≤ '9')

/-- From here on a bound is too large. -/
def boundLimit : Nat := 4294967295

/-- A bound of a repetition; without digits there is none. -/
def bound? (digits : List Char) : Except Fault (Option Nat) :=
  if digits.isEmpty then .ok none
  else match Numeral.decimalRun? digits with
  | none => .error .oversizedNumber
  | some n => if n < boundLimit then .ok (some n) else .error .oversizedBound

/-- The digits of the two bounds in braces, after the opening one; a brace that opens none
stands for itself. -/
def braces? (cs : Tail) : Option ((Tail × Tail) × Tail) :=
  let least := cs.takeWhile isAsciiDigit
  match cs.dropWhile isAsciiDigit with
  | '\x7d' :: rest => if least.isEmpty then none else some ((least, least), rest)
  | ',' :: more =>
    match more.dropWhile isAsciiDigit with
    | '\x7d' :: rest => some ((least, more.takeWhile isAsciiDigit), rest)
    | _ => none
  | _ => none

/-- A repetition with the mark of its manner, if one follows. -/
def repetition (least : Nat) (most : Option Nat) : Tail → Token × Tail
  | '?' :: cs => (.repetition least most .lazy, cs)
  | '+' :: cs => (.repetition least most .possessive, cs)
  | cs => (.repetition least most .greedy, cs)

def boundedRepetition (least most : Tail) (rest : Tail) : Except Fault (Token × Tail) := do
  let least := (← bound? least).getD 0
  let most ← bound? most
  if most.any (· < least) then .error .malformed else return repetition least most rest

def orMalformed {α : Type} : Option α → Except Fault α
  | some a => .ok a
  | none => .error .malformed

/-- The token that starts with `c`. -/
def token : Char → Tail → Except Fault (Token × Tail)
  | '\\', 'A' :: cs => .ok (.anchor .start, cs)
  | '\\', 'Z' :: cs => .ok (.anchor .finish, cs)
  | '\\', cs => (orMalformed (escape? cs)).map fun (item, rest) => (.char ⟨false, [item]⟩, rest)
  | '[', cs => (orMalformed (class? cs)).map fun (cls, rest) => (.char cls, rest)
  | '(', '?' :: ':' :: cs => .ok (.opening, cs)
  | '(', '?' :: _ => .error .malformed
  | '(', cs => .ok (.opening, cs)
  | ')', cs => .ok (.closing, cs)
  | '|', cs => .ok (.bar, cs)
  | '^', cs => .ok (.anchor .start, cs)
  | '$', cs => .ok (.anchor .stop, cs)
  | '.', cs => .ok (.char .any, cs)
  | '*', cs => .ok (repetition 0 none cs)
  | '+', cs => .ok (repetition 1 none cs)
  | '?', cs => .ok (repetition 0 (some 1) cs)
  | '\x7b', cs =>
    match braces? cs with
    | some ((least, most), rest) => boundedRepetition least most rest
    | none => .ok (.char (.one '\x7b'), cs)
  | c, cs => .ok (.char (.one c), cs)

/-- What a repetition may follow. -/
inductive Role where
  | atom
  | anchor
  | repeated
  deriving DecidableEq, Repr

/-- An open group: its finished alternatives and the parts of the current one, both with
the latest first. -/
structure Frame where
  alternatives : List Pattern
  parts : List (Pattern × Role)
  deriving Repr

namespace Frame

def empty : Frame := ⟨[], []⟩

def sequence (frame : Frame) : Pattern :=
  frame.parts.foldl (fun p part => .seq part.1 p) .empty

def pattern (frame : Frame) : Pattern :=
  frame.alternatives.foldl (fun p q => .alt q p) frame.sequence

def push (frame : Frame) (p : Pattern) (role : Role) : Frame :=
  { frame with parts := (p, role) :: frame.parts }

def nextAlternative (frame : Frame) : Frame := ⟨frame.sequence :: frame.alternatives, []⟩

def repeatLast? (frame : Frame) (least : Nat) (most : Option Nat) (manner : Manner) :
    Option Frame :=
  match frame.parts with
  | (p, .atom) :: parts =>
    some { frame with parts := (.many p least most manner, .repeated) :: parts }
  | _ => none

end Frame

/-- Takes a token into the innermost open group. -/
def advance? : Frame × List Frame → Token → Option (Frame × List Frame)
  | (frame, outer), .char cls => some (frame.push (.char cls) .atom, outer)
  | (frame, outer), .anchor p => some (frame.push p .anchor, outer)
  | (frame, outer), .opening => some (.empty, frame :: outer)
  | (frame, outer), .closing =>
    match outer with
    | parent :: rest => some (parent.push frame.pattern .atom, rest)
    | [] => none
  | (frame, outer), .bar => some (frame.nextAlternative, outer)
  | (frame, outer), .repetition least most manner =>
    (frame.repeatLast? least most manner).map fun frame => (frame, outer)

/-- The innermost group that is open at the end and the groups around it. Each token takes
a character, so `fuel` may be the length of the text. -/
def readFrom : Nat → Frame × List Frame → Tail → Except Fault (Frame × List Frame)
  | _, state, [] => .ok state
  | 0, _, _ => .error .malformed
  | fuel + 1, state, c :: cs => do
    let (token, rest) ← token c cs
    readFrom fuel (← orMalformed (advance? state token)) rest

def ofText (s : String) : Except Fault Pattern := do
  match ← readFrom s.toList.length (.empty, []) s.toList with
  | (frame, []) => return frame.pattern
  | _ => .error .malformed

/-! ## Engines

Patterns have more forms than are read here: other classes, flags, names of groups, references back
to them, and looks ahead and behind. What a check finds is the same for whatever engine it is given.
-/

/-- A program that compiles patterns. A compiled pattern tells which texts it matches as a whole. -/
class Engine where
  compile : String → Except Fault (String → Bool)

/-- The engine that knows the forms above and no others. -/
instance plainEngine : Engine where
  compile s := (ofText s).map matchesAll

end DesignRules.Pattern
