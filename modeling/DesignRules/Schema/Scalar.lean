import DesignRules.Datum
import DesignRules.Schema.Checked
import DesignRules.Text.Chars

/-! # Scalars of a schema

How texts, integers and flags are read from data. An integer may also be given as a
flag, an integral float or a text, and a flag as a number or a word.
-/

namespace DesignRules.Schema

open Checked

def text : Datum → Checked String
  | .text s => .valid s
  | _ => fail .notText

def nullable {α : Type} (read : Datum → Checked α) : Datum → Checked (Option α)
  | .null => .valid none
  | value => (read value).map some

def list {α : Type} (read : Datum → Checked α) : Datum → Checked (List α)
  | .list items => each read items
  | _ => fail .notList

def dictionary : Datum → Checked Fields
  | .object fields => .valid fields
  | _ => fail .notDictionary

def fields : Datum → Checked Fields
  | .object fields => .valid fields
  | _ => fail .notObject

def isAsciiDigit (c : Char) : Bool := decide ('0' ≤ c) && decide (c ≤ '9')

/-- A minus sign or a digit other than zero, with which a number without leading zeros
starts. -/
def startsInteger (c : Char) : Bool := c == '-' || (isAsciiDigit c && c != '0')

/-- What follows leading zeros and underscores, of which `last` is the latest. Where no
digit follows, the latest stays. -/
def afterZeros? (last : Char) : List Char → Option (List Char)
  | [] => some [last]
  | '.' :: rest => some (last :: '.' :: rest)
  | c :: rest =>
    if c == '0' || c == '_' then afterZeros? c rest
    else if startsInteger c then some (c :: rest)
    else none

def dropLeadingZeros? : List Char → Option (List Char)
  | '0' :: rest => afterZeros? '0' rest
  | c :: rest => if startsInteger c then some (c :: rest) else none
  | [] => none

/-- Cuts off a fraction that consists of zeros. -/
def dropZeroFraction (cs : List Char) : List Char :=
  match cs.dropWhile (· != '.') with
  | '.' :: fraction =>
    if !fraction.isEmpty && fraction.all (· == '0') then cs.takeWhile (· != '.') else cs
  | _ => cs

def hasDoubleUnderscore : List Char → Bool
  | '_' :: '_' :: _ => true
  | _ :: rest => hasDoubleUnderscore rest
  | [] => false

/-- Removes single underscores, unless one stands at an end. -/
def dropUnderscores (cs : List Char) : List Char :=
  if cs.head? == some '_' || cs.getLast? == some '_' || hasDoubleUnderscore cs then cs
  else cs.filter (· != '_')

/-- A run of digits that nothing follows. Its length is looked at first. -/
def digitRun (cs : List Char) : Checked Nat :=
  let run := cs.takeWhile isAsciiDigit
  if Numeral.digitLimit < run.length then fail .oversizedInteger
  else if run.isEmpty || run.length < cs.length then fail .unreadableInteger
  else .valid (Numeral.ofDigits 10 (run.map fun c => c.toNat - 0x30))

def signedRun : List Char → Checked Int
  | '-' :: cs => (digitRun cs).map fun n => -Int.ofNat n
  | cs => (digitRun cs).map Int.ofNat

/-- A plus sign may come first, but no other sign after it. -/
def dropPlus? : List Char → Option (List Char)
  | '+' :: '-' :: _ => none
  | '+' :: cs => some cs
  | cs => some cs

def integerText (s : String) : Checked Int :=
  if Text.isBroken s then fail .brokenText
  else match (dropPlus? (Numeral.trimPadding s.toList)).bind dropLeadingZeros? with
  | some cs => signedRun (dropUnderscores (dropZeroFraction cs))
  | none => fail .unreadableInteger

/-- The bound of the integers of 64 bits, of which one is for the sign. -/
def wordBound : Int := Nat.pow 2 63

/-- The integer that a float is, if it lies strictly inside the bounds of 64 bits. -/
def integerOfFloat (x : Binary64) : Checked Int :=
  if !x.isFinite then fail .infiniteInteger
  else match x.toInt? with
  | none => fail .fractionalInteger
  | some n => if -wordBound < n ∧ n < wordBound then .valid n else fail .oversizedInteger

def integer : Datum → Checked Int
  | .int n => .valid n
  | .bool b => .valid (if b then 1 else 0)
  | .float x => integerOfFloat x
  | .text s => integerText s
  | _ => fail .notInteger

def trueWords : List String := ["1", "on", "t", "true", "y", "yes"]

def falseWords : List String := ["0", "off", "f", "false", "n", "no"]

def flagOfInteger (n : Int) : Checked Bool :=
  if n = 0 then .valid false else if n = 1 then .valid true else fail .unreadableFlag

def flagText (s : String) : Checked Bool :=
  let word := String.ofList (s.toList.map Char.toLower)
  if Text.isBroken s then fail .brokenText
  else if trueWords.contains word then .valid true
  else if falseWords.contains word then .valid false
  else fail .unreadableFlag

def flag : Datum → Checked Bool
  | .bool b => .valid b
  | .int n => if -wordBound ≤ n ∧ n < wordBound then flagOfInteger n else fail .notFlag
  | .float x =>
    match integerOfFloat x with
    | .valid n => flagOfInteger n
    | .invalid _ => fail .notFlag
  | .text s => flagText s
  | _ => fail .notFlag

/-- The value that a name stands for. -/
def choice {α : Type} (named : String → Option α) : Datum → Checked α
  | .text s => if Text.isBroken s then fail .brokenText else ofOption .notChoice (named s)
  | _ => fail .notChoice

end DesignRules.Schema
