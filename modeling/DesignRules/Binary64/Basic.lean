/-! # Binary floating-point numbers

A double-precision number as sign, significand and power of two. The comparisons are
those of the exact values, so that integers of any size can be compared with floats.
-/

namespace DesignRules

inductive Binary64 where
  /-- Plus or minus `significand * 2 ^ exponent`. -/
  | finite (negative : Bool) (significand : Nat) (exponent : Int)
  | infinite (negative : Bool)
  | nan
  deriving DecidableEq, Repr, Inhabited

/-- The exact value of a number that is not a NaN. -/
inductive Extended where
  | below
  | ratio (numerator : Int) (denominator : Nat)
  | above
  deriving DecidableEq, Repr

namespace Extended

def ofInt (n : Int) : Extended := .ratio n 1

def le : Extended → Extended → Bool
  | .below, _ => true
  | _, .above => true
  | .ratio a b, .ratio c d => decide (a * d ≤ c * b)
  | _, _ => false

def eq (x y : Extended) : Bool := x.le y && y.le x

end Extended

namespace Binary64

def zero : Binary64 := .finite false 0 (-1074)

def numerator (negative : Bool) (significand : Nat) (exponent : Int) : Int :=
  let n : Int := (significand * Nat.pow 2 exponent.toNat : Nat)
  if negative then -n else n

def denominator (exponent : Int) : Nat := Nat.pow 2 (-exponent).toNat

def extended? : Binary64 → Option Extended
  | .finite s m e => some (.ratio (numerator s m e) (denominator e))
  | .infinite true => some .below
  | .infinite false => some .above
  | .nan => none

/-- The value of a float that is an integer. -/
def toInt? : Binary64 → Option Int
  | .finite s m e =>
    if numerator s m e % (denominator e : Int) = 0 then
      some (numerator s m e / (denominator e : Int))
    else none
  | _ => none

def isZero : Binary64 → Bool
  | .finite _ m _ => m == 0
  | _ => false

def isFinite : Binary64 → Bool
  | .finite .. => true
  | _ => false

/-- The least magnitude whose nearest float would be infinite. -/
def overflowBound : Nat := Nat.pow 2 1024 - Nat.pow 2 970

/-- The integer lies beyond the finite floats. -/
def isBeyond (n : Int) : Bool := decide (overflowBound ≤ n.natAbs)

end Binary64

end DesignRules
