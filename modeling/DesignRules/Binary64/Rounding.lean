import DesignRules.Binary64.Basic
import DesignRules.Numeral

/-! # Reading decimal fractions

The nearest float to a decimal fraction, ties to the even significand.
-/

namespace DesignRules.Binary64

/-- The quotient rounded to the nearest integer, a tie to the even one. -/
def roundDiv (num den : Nat) : Nat :=
  let q := num / den
  let r := num % den
  if 2 * r < den ∨ (2 * r = den ∧ q % 2 = 0) then q else q + 1

/-- The numerator and denominator of `num / den / 2 ^ exponent`. -/
def scaled (num den : Nat) (exponent : Int) : Nat × Nat :=
  (num * Nat.pow 2 (-exponent).toNat, den * Nat.pow 2 exponent.toNat)

/-- The power of two of the last place of the floats around `num / den`. -/
def lastPlace (num den : Nat) : Int :=
  let e : Int := (num.log2 : Int) - den.log2 - 53
  let (n, d) := scaled num den e
  max (if Nat.pow 2 53 ≤ n / d then e + 1 else e) (-1074)

def ofRatio (negative : Bool) (num den : Nat) : Binary64 :=
  if num = 0 then .finite negative 0 (-1074)
  else
    let e := lastPlace num den
    let (n, d) := scaled num den e
    let m := roundDiv n d
    let (m, e) := if m = Nat.pow 2 53 then (Nat.pow 2 52, e + 1) else (m, e)
    if 971 < e then .infinite negative else .finite negative m e

/-- The float nearest to `significand * 10 ^ exponent`; the answer is known without the
division where the power of ten is far outside the range of floats. -/
def ofDecimal (negative : Bool) (significand : Nat) (exponent : Int) : Binary64 :=
  if significand = 0 then .finite negative 0 (-1074)
  else if exponent > 400 then .infinite negative
  else if exponent + (Numeral.digits 10 significand).length < -400 then
    .finite negative 0 (-1074)
  else ofRatio negative (significand * Nat.pow 10 exponent.toNat) (Nat.pow 10 (-exponent).toNat)

/-- An unsigned run of digits with an optional fraction and an optional exponent. -/
def unsigned? (negative : Bool) (cs : List Char) : Option Binary64 :=
  let isDigit := fun c : Char => decide ('0' ≤ c) && decide (c ≤ '9')
  let value := fun ds : List Char => Numeral.ofDigits 10 (ds.map fun c => c.toNat - 0x30)
  let whole := cs.takeWhile isDigit
  let rest := cs.dropWhile isDigit
  let (fraction, rest) := match rest with
    | '.' :: tail => (tail.takeWhile isDigit, tail.dropWhile isDigit)
    | _ => ([], rest)
  if whole.isEmpty && fraction.isEmpty then none
  else
    let significand := value (whole ++ fraction)
    let build := fun e : Int => some (ofDecimal negative significand (e - fraction.length))
    let power := fun (sign : Int) (ds : List Char) =>
      if ds.isEmpty || !ds.all isDigit then none else build (sign * value ds)
    match rest with
    | [] => build 0
    | c :: '-' :: ds => if c = 'e' ∨ c = 'E' then power (-1) ds else none
    | c :: '+' :: ds => if c = 'e' ∨ c = 'E' then power 1 ds else none
    | c :: ds => if c = 'e' ∨ c = 'E' then power 1 ds else none

/-- Reads `inf`, `infinity`, `nan` or a decimal fraction, each with an optional sign. -/
def ofText? (s : String) : Option Binary64 :=
  let read := fun (negative : Bool) (cs : List Char) =>
    if cs = "inf".toList ∨ cs = "infinity".toList then some (.infinite negative)
    else if cs = "nan".toList then some .nan
    else unsigned? negative cs
  match s.toList with
  | '-' :: cs => read true cs
  | '+' :: cs => read false cs
  | cs => read false cs

end DesignRules.Binary64
