import DesignRules.Text.Chars

/-! # Numerals

Integers as runs of digits. Decimal numerals are read and written only up to a fixed
number of digits; hexadecimal ones have no limit.
-/

namespace DesignRules.Numeral

/-- The longest decimal numeral that is read or written. -/
def digitLimit : Nat := 4300

/-- The digits of `n`, most significant first, in a base of at least two. -/
def digits (base n : Nat) : List Nat :=
  if n < base ∨ base < 2 then [n] else digits base (n / base) ++ [n % base]
termination_by n
decreasing_by
  rename_i h
  exact Nat.div_lt_self (by omega) (by omega)

def ofDigits (base : Nat) (ds : List Nat) : Nat := ds.foldl (fun n d => base * n + d) 0

def digitChar (n : Nat) : Char :=
  if n < 10 then Char.ofNat (0x30 + n) else Char.ofNat (0x61 + (n - 10))

def capitalDigitChar (n : Nat) : Char :=
  if n < 10 then Char.ofNat (0x30 + n) else Char.ofNat (0x41 + (n - 10))

def natural (base n : Nat) : List Char := (digits base n).map digitChar

def signed (written : Nat → List Char) (n : Int) : List Char :=
  if n < 0 then '-' :: written n.natAbs else written n.natAbs

def decimal (n : Int) : String := String.ofList (signed (natural 10) n)

def ofNat (n : Nat) : String := String.ofList (natural 10 n)

/-- More decimal digits than are ever written. -/
def isTooLong (n : Int) : Bool := decide (Nat.pow 10 digitLimit ≤ n.natAbs)

/-- The mark `0x`, a minus sign if the number is negative, and its hexadecimal digits. -/
def hex (n : Int) : String := String.ofList ('0' :: 'x' :: signed (natural 16) n)

def padZeros (width : Nat) (cs : List Char) : List Char :=
  List.replicate (width - cs.length) '0' ++ cs

/-- Capital digits padded with zeros to eight places, of which a minus sign takes one. -/
def paddedHex (n : Int) : String :=
  let written : List Char := (digits 16 n.natAbs).map capitalDigitChar
  String.ofList ('0' :: 'x' ::
    (if n < 0 then '-' :: padZeros 7 written else padZeros 8 written))

def hexLetter? (c : Char) : Option Nat :=
  if 'a' ≤ c ∧ c ≤ 'f' then some (c.toNat - 0x61 + 10)
  else if 'A' ≤ c ∧ c ≤ 'F' then some (c.toNat - 0x41 + 10)
  else none

def hexDigit? (c : Char) : Option Nat := (Text.digitValue? c) <|> hexLetter? c

def run? (digit? : Char → Option Nat) (base : Nat) (cs : List Char) : Option Nat :=
  if cs.isEmpty then none else (cs.mapM digit?).map (ofDigits base)

def decimalRun? (cs : List Char) : Option Nat :=
  if cs.length ≤ digitLimit then run? Text.digitValue? 10 cs else none

/-- A run of digits in a base of at most sixteen, which may start with a zero and the
letter that marks the base. -/
def markedRun? (base : Nat) (mark : Char) (cs : List Char) : Option Nat :=
  let digit? := fun c => (hexDigit? c).filter (· < base)
  match cs with
  | z :: x :: rest =>
    if Text.digitValue? z = some 0 ∧ (x = mark ∨ x = mark.toUpper) then run? digit? base rest
    else run? digit? base cs
  | _ => run? digit? base cs

def signed? (read : List Char → Option Nat) : List Char → Option Int
  | '-' :: cs => (read cs).map fun n => -(n : Int)
  | '+' :: cs => (read cs).map fun n => (n : Int)
  | cs => (read cs).map fun n => (n : Int)

/-- The white space allowed around a numeral: all but the separator controls. -/
def isPadding (c : Char) : Bool := Text.isBlank c && !(28 ≤ c.toNat && c.toNat ≤ 31)

def trimPadding (cs : List Char) : List Char :=
  ((cs.dropWhile isPadding).reverse.dropWhile isPadding).reverse

def readDecimal? (cs : List Char) : Option Int := signed? decimalRun? (trimPadding cs)

/-- Reads digits in a base that has a mark. -/
def readMarked? (base : Nat) (mark : Char) (cs : List Char) : Option Int :=
  signed? (markedRun? base mark) (trimPadding cs)

def readHex? (cs : List Char) : Option Int := readMarked? 16 'x' cs

end DesignRules.Numeral
