import DesignRules.Numeral
import DesignRules.Text.Case

/-! # Sizes

A size is a decimal number of bytes or of a binary multiple of bytes. A fraction of a
byte is dropped, and a text of any other form has size zero.
-/

namespace DesignRules.Address

def unitSize? : List Char → Option Nat
  | [] => some 1
  | ['B'] => some 1
  | ['K', 'B'] => some 1024
  | ['M', 'B'] => some (Nat.pow 1024 2)
  | ['G', 'B'] => some (Nat.pow 1024 3)
  | ['T', 'B'] => some (Nat.pow 1024 4)
  | _ => none

/-- The parts of a size: the digits before and after the point and the unit in bytes. -/
structure SizeText where
  whole : List Char
  fraction : List Char
  unit : Nat
  deriving DecidableEq, Repr

/-- Digits after a point, if there are any. -/
def takeFraction : List Char → List Char × List Char
  | '.' :: cs =>
    if (cs.takeWhile Text.isDigit).isEmpty then ([], '.' :: cs)
    else (cs.takeWhile Text.isDigit, cs.dropWhile Text.isDigit)
  | cs => ([], cs)

def parts? (cs : List Char) : Option SizeText :=
  let whole := cs.takeWhile Text.isDigit
  let (fraction, rest) := takeFraction (cs.dropWhile Text.isDigit)
  if whole.isEmpty then none
  else (unitSize? (rest.dropWhile Text.isBlank)).map (SizeText.mk whole fraction)

namespace SizeText

def isTooLong (t : SizeText) : Bool :=
  decide (Numeral.digitLimit < t.whole.length) || decide (Numeral.digitLimit < t.fraction.length)

def value (ds : List Char) : Nat := Numeral.ofDigits 10 (ds.map fun c => (Text.digitValue? c).getD 0)

def bytes (t : SizeText) : Nat :=
  value (t.whole ++ t.fraction) * t.unit / Nat.pow 10 t.fraction.length

end SizeText

/-- The number of bytes, or nothing if a run of digits is too long to be read. -/
def parseSize? (s : String) : Option Nat :=
  match parts? (Text.upper (Text.trim s)).toList with
  | none => some 0
  | some t => if t.isTooLong then none else some t.bytes

end DesignRules.Address
