import DesignRules.Yaml.Cursor

/-! # Plain scalars

A scalar without quotes ends at a comment, at a colon before a gap or at the end of its
block. Line breaks inside it are folded.
-/

namespace DesignRules.Yaml

def isFlowMark (c : Char) : Bool := c == ',' || c == '[' || c == ']' || c == '\x7b' || c == '\x7d'

/-- A plain scalar cannot go on with `c` when `rest` follows it. -/
def stopsPlain (inFlow : Bool) (c : Char) (rest : List Char) : Bool :=
  isGapChar c || (c == ':' && (isGap rest || (inFlow && rest.head?.any isFlowMark))) ||
    (inFlow && (isFlowMark c || c == '?'))

def plainRun (inFlow : Bool) : List Char → List Char
  | [] => []
  | c :: rest => if stopsPlain inFlow c rest then [] else c :: plainRun inFlow rest

/-- The characters with a meaning of their own at the start of a scalar. -/
def reserved : List Char := "-?:,[]\x7b\x7d#&*!|>'\"%@\x60".toList

def startsPlain (inFlow : Bool) : List Char → Bool
  | [] => false
  | c :: rest =>
    (!isGapChar c && !reserved.contains c) ||
      (!isGap rest && (c == '-' || (!inFlow && (c == '?' || c == ':'))))

/-- White space after a run of a plain scalar: the text it stands for if the scalar goes
on, the place after it and whether it holds a line break. -/
structure PlainGap where
  text : List Char
  after : Cursor
  isBroken : Bool

def plainGap (c : Cursor) : PlainGap :=
  let ahead := c.passSpaces
  if ahead.rest.head?.any isBreak then
    let isPart := fun a => a == ' ' || isBreak a
    let breaks := ((ahead.rest.takeWhile isPart).filter isBreak).map breakText
    ⟨foldBreaks breaks, ahead.pass isPart, true⟩
  else ⟨c.rest.takeWhile (· == ' '), ahead, false⟩

/-- A plain scalar whose further lines start at the column `least` or after it goes on
here. -/
def PlainGap.continues (inFlow : Bool) (least : Nat) (gap : PlainGap) : Bool :=
  !gap.text.isEmpty && !(gap.isBroken && isAnyMarker gap.after.rest && gap.after.column == 0) &&
    gap.after.rest.head? != some '#' && (inFlow || decide (least ≤ gap.after.column))

/-- The text of the plain scalar at a place and the gap after it. Each round takes a run,
so `fuel` may be the length of the rest. -/
def plainScalar (inFlow : Bool) (least : Nat) : Nat → Cursor → List Char × PlainGap
  | 0, c => ([], ⟨[], c, false⟩)
  | fuel + 1, c =>
    let run := plainRun inFlow c.rest
    let gap := plainGap (c.drop run.length)
    if gap.continues inFlow least && !(plainRun inFlow gap.after.rest).isEmpty then
      let (more, last) := plainScalar inFlow least fuel gap.after
      (run ++ gap.text ++ more, last)
    else (run, gap)

end DesignRules.Yaml
