import DesignRules.Text.Chars

/-! # Patterns

Regular expressions over characters and what it means to match one. A whole text is
matched one character at a time, by the patterns that the rest of the text may match.
A possessive repetition is the exception: how much it takes does not depend on what
comes after it, so it is matched on its own, in order of preference.
-/

namespace DesignRules

/-- A member of a character class. -/
inductive ClassItem where
  | span (first last : Char)
  | digit (negated : Bool)
  | blank (negated : Bool)
  deriving DecidableEq, Repr

structure CharClass where
  negated : Bool
  items : List ClassItem
  deriving DecidableEq, Repr

namespace ClassItem

def one (c : Char) : ClassItem := .span c c

def has (c : Char) : ClassItem → Bool
  | .span first last => decide (first ≤ c) && decide (c ≤ last)
  | .digit negated => Text.isDigit c != negated
  | .blank negated => Text.isBlank c != negated

end ClassItem

namespace CharClass

def has (cls : CharClass) (c : Char) : Bool := cls.items.any (·.has c) != cls.negated

def one (c : Char) : CharClass := ⟨false, [.one c]⟩

/-- Every character but the line feed. -/
def any : CharClass := ⟨true, [.one '\n']⟩

def all : CharClass := ⟨true, []⟩

end CharClass

/-- Which numbers of repetitions are tried, and in which order. -/
inductive Manner where
  /-- Further ones before fewer. -/
  | greedy
  /-- Fewer ones before further. -/
  | lazy
  /-- As many as possible, each in its preferred way, and no other number. -/
  | possessive
  deriving DecidableEq, Repr

inductive Pattern where
  | empty
  | char (cls : CharClass)
  | seq (first second : Pattern)
  | alt (first second : Pattern)
  /-- At least `least` and, if that is bounded, at most `most` times. -/
  | many (body : Pattern) (least : Nat) (most : Option Nat) (manner : Manner)
  | start
  /-- The end of the text, also before a final line feed. -/
  | stop
  /-- The very end of the text. -/
  | finish
  deriving DecidableEq, Repr

namespace Pattern

def isStop (rest : List Char) : Bool := rest == [] || rest == ['\n']

/-! ## Preference -/

/-- What is left of `cs` after at least `least` steps, preferred rests first. A step that
takes nothing has met the lower bound and is not repeated, so that `fuel` may be more than
the length of `cs`. -/
def repeated (step : List Char → List (List Char)) (isLazy : Bool) :
    Nat → Nat → Option Nat → List Char → List (List Char)
  | 0, _, _, _ => []
  | fuel + 1, least, most, cs =>
    let further := if most = some 0 then [] else (step cs).flatMap fun rest =>
      if rest.length < cs.length then
        repeated step isLazy fuel (least - 1) (most.map (· - 1)) rest
      else [cs]
    if 0 < least then further
    else if isLazy then cs :: further
    else further ++ [cs]

/-- What is left of `cs` after as many preferred steps as possible. -/
def exhausted? (step : List Char → List (List Char)) :
    Nat → Nat → Option Nat → List Char → Option (List Char)
  | 0, _, _, cs => some cs
  | fuel + 1, least, most, cs =>
    if most = some 0 then some cs
    else match (step cs).head? with
    | some rest =>
      if rest.length < cs.length then
        exhausted? step fuel (least - 1) (most.map (· - 1)) rest
      else some cs
    | none => if least = 0 then some cs else none

/-- What is left of a text after each way to match a start of it, preferred ways first.
The whole text has the length `whole`. -/
def rests (whole : Nat) : Pattern → List Char → List (List Char)
  | .empty, cs => [cs]
  | .char _, [] => []
  | .char cls, c :: cs => if cls.has c then [cs] else []
  | .seq p q, cs => ((p.rests whole cs).flatMap fun rest => q.rests whole rest).eraseDups
  | .alt p q, cs => (p.rests whole cs ++ q.rests whole cs).eraseDups
  | .many p least most .greedy, cs =>
    (repeated (fun cs => p.rests whole cs) false (cs.length + 1) least most cs).eraseDups
  | .many p least most .lazy, cs =>
    (repeated (fun cs => p.rests whole cs) true (cs.length + 1) least most cs).eraseDups
  | .many p least most .possessive, cs =>
    (exhausted? (fun cs => p.rests whole cs) (cs.length + 1) least most cs).toList
  | .start, cs => if cs.length = whole then [cs] else []
  | .stop, cs => if isStop cs then [cs] else []
  | .finish, cs => if cs == [] then [cs] else []

/-- What a possessive repetition leaves; `first` tells whether the whole text starts at
`cs`. -/
def afterAll? (first : Bool) (p : Pattern) (least : Nat) (most : Option Nat) (cs : List Char) :
    Option (List Char) :=
  exhausted? (p.rests (if first then cs.length else cs.length + 1)) (cs.length + 1) least most cs

/-! ## Matching -/

/-- The pattern matches the empty text before `rest`; `first` tells whether the whole text
starts there. -/
def isNullable (first : Bool) (rest : List Char) : Pattern → Bool
  | .empty => true
  | .char _ => false
  | .seq p q => p.isNullable first rest && q.isNullable first rest
  | .alt p q => p.isNullable first rest || q.isNullable first rest
  | .many p least most .possessive => p.afterAll? first least most rest == some rest
  | .many p least _ _ => least == 0 || p.isNullable first rest
  | .start => first
  | .stop => isStop rest
  | .finish => rest == []

def andThen : Pattern → Pattern → Pattern
  | .empty, q => q
  | p, q => .seq p q

/-- Matches any `count` characters. -/
def skip (count : Nat) : Pattern := .many (.char .all) count (some count) .greedy

/-- The patterns of which one must match what follows once `c` is taken, where `rest`
follows `c`. A repetition whose body matches nothing here has met its lower bound. -/
def after (first : Bool) (c : Char) (rest : List Char) : Pattern → List Pattern
  | .char cls => if cls.has c then [.empty] else []
  | .seq p q =>
    (p.after first c rest).map (·.andThen q) ++
      (if p.isNullable first (c :: rest) then q.after first c rest else [])
  | .alt p q => p.after first c rest ++ q.after first c rest
  | .many p least most .possessive =>
    match p.afterAll? first least most (c :: rest) with
    | some left => if left.length ≤ rest.length then [skip (rest.length - left.length)] else []
    | none => []
  | .many p least most manner =>
    if most = some 0 then []
    else
      let least := if p.isNullable first (c :: rest) then 0 else least - 1
      (p.after first c rest).map (·.andThen (.many p least (most.map (· - 1)) manner))
  | .empty | .start | .stop | .finish => []

/-- One of the patterns matches all that is left. -/
def matchesFrom (first : Bool) : List Char → List Pattern → Bool
  | [], ps => ps.any (isNullable first [])
  | c :: rest, ps => matchesFrom false rest (ps.flatMap (after first c rest)).eraseDups

def matchesAll (p : Pattern) (s : String) : Bool := matchesFrom true s.toList [p]

end Pattern

end DesignRules
