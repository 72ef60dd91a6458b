import DesignRules.Binary64.Rounding

/-! # Sums and products

The float nearest to the exact sum or product of two floats.
-/

namespace DesignRules.Binary64

def isNegative : Binary64 → Bool
  | .finite s _ _ => s
  | .infinite s => s
  | .nan => false

def neg : Binary64 → Binary64
  | .finite s m e => .finite (!s) m e
  | .infinite s => .infinite (!s)
  | .nan => .nan

/-- The float nearest to `n * 2 ^ exponent`, whose zero is positive. -/
def nearest (n : Int) (exponent : Int) : Binary64 :=
  ofRatio (decide (n < 0)) (n.natAbs * Nat.pow 2 exponent.toNat) (denominator exponent)

def signedSignificand (negative : Bool) (significand : Nat) : Int :=
  if negative then -(significand : Int) else significand

def add : Binary64 → Binary64 → Binary64
  | .nan, _ | _, .nan => .nan
  | .infinite s, .infinite t => if s = t then .infinite s else .nan
  | .infinite s, _ | _, .infinite s => .infinite s
  | .finite s m e, .finite t n f =>
    let low := min e f
    let part := fun (s : Bool) (m : Nat) (e : Int) =>
      signedSignificand s m * (Nat.pow 2 (e - low).toNat : Nat)
    if s && t && m == 0 && n == 0 then .finite true 0 (-1074)
    else nearest (part s m e + part t n f) low

def mul (x y : Binary64) : Binary64 :=
  let negative := x.isNegative != y.isNegative
  match x, y with
  | .nan, _ | _, .nan => .nan
  | .infinite _, y => if y.isZero then .nan else .infinite negative
  | x, .infinite _ => if x.isZero then .nan else .infinite negative
  | .finite _ m e, .finite _ n f =>
    ofRatio negative (m * n * Nat.pow 2 (e + f).toNat) (denominator (e + f))

/-- The float nearest to an integer. -/
def ofInt (n : Int) : Binary64 := nearest n 0

end DesignRules.Binary64
