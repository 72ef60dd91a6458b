/-! # UTF-8

Encoding of characters as octets, and decoding that puts a replacement character where
octets form no character. One replacement stands for the longest start of a character
that is cut off, and for every other stray octet. `isWhole` tells whether there are any
such octets.
-/

namespace DesignRules.Text.Utf8

def encodeChar (c : Char) : List Nat :=
  let n := c.toNat
  if n < 0x80 then [n]
  else if n < 0x800 then [0xc0 + n / 0x40, 0x80 + n % 0x40]
  else if n < 0x10000 then [0xe0 + n / 0x1000, 0x80 + n / 0x40 % 0x40, 0x80 + n % 0x40]
  else [0xf0 + n / 0x40000, 0x80 + n / 0x1000 % 0x40, 0x80 + n / 0x40 % 0x40, 0x80 + n % 0x40]

def encode (cs : List Char) : List Nat := cs.flatMap encodeChar

def replacement : Char := '\ufffd'

/-- A character under way: its bits so far, the number of octets to come and the bounds
of the next one. -/
structure Partial where
  bits : Nat
  owed : Nat
  low : Nat
  high : Nat
  deriving DecidableEq, Repr

/-- The first octet of a character, or a stray one. -/
def start (b : Nat) : List Char × Option Partial :=
  if b < 0x80 then ([Char.ofNat b], none)
  else if 0xc2 ≤ b ∧ b ≤ 0xdf then ([], some ⟨b - 0xc0, 1, 0x80, 0xbf⟩)
  else if b = 0xe0 then ([], some ⟨0, 2, 0xa0, 0xbf⟩)
  else if b = 0xed then ([], some ⟨0xd, 2, 0x80, 0x9f⟩)
  else if 0xe1 ≤ b ∧ b ≤ 0xef then ([], some ⟨b - 0xe0, 2, 0x80, 0xbf⟩)
  else if b = 0xf0 then ([], some ⟨0, 3, 0x90, 0xbf⟩)
  else if 0xf1 ≤ b ∧ b ≤ 0xf3 then ([], some ⟨b - 0xf0, 3, 0x80, 0xbf⟩)
  else if b = 0xf4 then ([], some ⟨4, 3, 0x80, 0x8f⟩)
  else ([replacement], none)

def advance (p : Partial) (b : Nat) : List Char × Option Partial :=
  if p.low ≤ b ∧ b ≤ p.high then
    let bits := p.bits * 0x40 + (b - 0x80)
    if p.owed ≤ 1 then ([Char.ofNat bits], none) else ([], some ⟨bits, p.owed - 1, 0x80, 0xbf⟩)
  else (replacement :: (start b).1, (start b).2)

def step : Option Partial → Nat → List Char × Option Partial
  | none, b => start b
  | some p, b => advance p b

def decodeFrom (state : Option Partial) : List Nat → List Char
  | [] => if state.isSome then [replacement] else []
  | b :: rest => (step state b).1 ++ decodeFrom (step state b).2 rest

def decode (octets : List Nat) : List Char := decodeFrom none octets

/-- The octets are whole characters; `state` is the one under way. -/
def isWholeFrom : Option Partial → List Nat → Bool
  | state, [] => state.isNone
  | none, b :: rest => (b < 0x80 || (start b).2.isSome) && isWholeFrom (start b).2 rest
  | some p, b :: rest => p.low ≤ b && b ≤ p.high && isWholeFrom (advance p b).2 rest

def isWhole (octets : List Nat) : Bool := isWholeFrom none octets

end DesignRules.Text.Utf8
