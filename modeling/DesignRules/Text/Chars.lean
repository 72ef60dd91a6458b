/-! # Characters

Kinds of characters by their code points: white space, digits, and what stands for half of a
surrogate pair.
-/

namespace DesignRules.Text

/-! ## White space

The white space of every script, together with the four separator controls. `trim` removes it
from both ends of a text.
-/

def isBlank (c : Char) : Bool :=
  let n := c.toNat
  (9 ≤ n && n ≤ 13) || (28 ≤ n && n ≤ 32) || n == 0x85 || n == 0xa0 || n == 0x1680 ||
    (0x2000 ≤ n && n ≤ 0x200a) || n == 0x2028 || n == 0x2029 || n == 0x202f || n == 0x205f ||
    n == 0x3000

def trimEnd (cs : List Char) : List Char := (cs.reverse.dropWhile isBlank).reverse

def trimChars (cs : List Char) : List Char := trimEnd (cs.dropWhile isBlank)

def trim (s : String) : String := String.ofList (trimChars s.toList)

/-! ## Decimal digits

Every script's decimal digits form a run of ten code points that starts at its zero.
-/

def digitZeros : List Nat :=
  [0x30, 0x660, 0x6f0, 0x7c0, 0x966, 0x9e6, 0xa66, 0xae6, 0xb66, 0xbe6, 0xc66, 0xce6, 0xd66, 0xde6,
   0xe50, 0xed0, 0xf20, 0x1040, 0x1090, 0x17e0, 0x1810, 0x1946, 0x19d0, 0x1a80, 0x1a90, 0x1b50,
   0x1bb0, 0x1c40, 0x1c50, 0xa620, 0xa8d0, 0xa900, 0xa9d0, 0xa9f0, 0xaa50, 0xabf0, 0xff10, 0x104a0,
   0x10d30, 0x11066, 0x110f0, 0x11136, 0x111d0, 0x112f0, 0x11450, 0x114d0, 0x11650, 0x116c0,
   0x11730, 0x118e0, 0x11950, 0x11c50, 0x11d50, 0x11da0, 0x16a60, 0x16ac0, 0x16b50,
   0x1d7ce, 0x1d7d8, 0x1d7e2, 0x1d7ec, 0x1d7f6, 0x1e140, 0x1e2f0, 0x1e950, 0x1fbf0]

def digitValue? (c : Char) : Option Nat :=
  if c.toNat < 128 then
    if '0' ≤ c ∧ c ≤ '9' then some (c.toNat - 0x30) else none
  else
    (digitZeros.find? fun z => decide (z ≤ c.toNat) && decide (c.toNat < z + 10)).map
      (c.toNat - ·)

def isDigit (c : Char) : Bool := (digitValue? c).isSome

/-! ## Spans

Character classes are kept as increasing lists of closed spans, and letter maps as spans of
equally spaced code points that are shifted by one distance.
-/

def inSpans (spans : List (Nat × Nat)) (n : Nat) : Bool :=
  spans.any fun (first, last) => decide (first ≤ n) && decide (n ≤ last)

/-- The code points `first`, `first + step`, …, `last`, each moved by `shift`. -/
structure Shift where
  first : Nat
  last : Nat
  step : Nat
  shift : Int

def Shift.contains (s : Shift) (n : Nat) : Bool :=
  decide (s.first ≤ n) && decide (n ≤ s.last) && (n - s.first) % s.step == 0

def Shift.find? (shifts : List Shift) (n : Nat) : Option Nat :=
  (shifts.find? (·.contains n)).map fun s => ((n : Int) + s.shift).toNat

/-! ## Halves of surrogate pairs

A text in escapes may name a half of a surrogate pair without the other half. Such a half is no
character; in its place stands the private-use character `0x100000` above it, one of U+10D800 to
U+10DFFF. Texts that hold one of these characters in its own right are outside of the library.
-/

def isHighHalf (n : Nat) : Bool := decide (0xd800 ≤ n) && decide (n < 0xdc00)

def isLowHalf (n : Nat) : Bool := decide (0xdc00 ≤ n) && decide (n < 0xe000)

def isHalf (n : Nat) : Bool := isHighHalf n || isLowHalf n

/-- The character with a code, or what stands for a half with that code. -/
def ofCode (n : Nat) : Char := if isHalf n then Char.ofNat (0x100000 + n) else Char.ofNat n

/-- The character that the two halves of a pair form. -/
def joinHalves (high low : Nat) : Char :=
  Char.ofNat (0x10000 + (high - 0xd800) * 0x400 + (low - 0xdc00))

/-- The code of a character, or of the half that it stands for. -/
def code (c : Char) : Nat :=
  let n := c.toNat
  if isHalf (n - 0x100000) then n - 0x100000 else n

def isHalfMark (c : Char) : Bool := isHalf (code c)

/-- The text holds a half of a pair. -/
def isBroken (s : String) : Bool := s.toList.any isHalfMark

end DesignRules.Text
