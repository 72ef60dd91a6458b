import DesignRules.Binary64.Basic
import DesignRules.Numeral

/-! # Shortest decimal text

A float is written with the fewest digits that read back as it, the nearest such
number if there are several.
-/

namespace DesignRules.Binary64

/-- A bound `quarters / 4` units in the last place `2 ^ exponent`, as a ratio. -/
def bound (quarters : Nat) (exponent : Int) : Nat × Nat :=
  (quarters * Nat.pow 2 exponent.toNat, 4 * Nat.pow 2 (-exponent).toNat)

/-- Compares `digits * 10 ^ power` with a ratio. -/
def compareDecimal (digits : Nat) (power : Int) (ratio : Nat × Nat) : Ordering :=
  compare (digits * Nat.pow 10 power.toNat * ratio.2) (ratio.1 * Nat.pow 10 (-power).toNat)

/-- A decimal lies between the midpoints to the two neighbouring floats; the midpoints
belong to the float with the even significand. -/
def readsBack (m : Nat) (e : Int) (digits : Nat) (power : Int) : Bool :=
  let low := bound (if m = Nat.pow 2 52 ∧ -1074 < e then 4 * m - 1 else 4 * m - 2) e
  let high := bound (4 * m + 2) e
  match compareDecimal digits power low, compareDecimal digits power high with
  | .gt, .lt => true
  | .eq, _ | _, .eq => m % 2 == 0
  | _, _ => false

/-- The least `k` with `m * 2 ^ e < 10 ^ k`. -/
def decimalPoint (m : Nat) (e : Int) : Int :=
  let n := m * Nat.pow 2 e.toNat * Nat.pow 10 400 / Nat.pow 2 (-e).toNat
  ((Numeral.digits 10 n).length : Int) - 400

/-- Of the two points of the grid `10 ^ power` around the value, the nearer of those
that read back. -/
def onGrid? (m : Nat) (e : Int) (power : Int) : Option Nat :=
  let (n, d) := bound (4 * m) e
  let num := n * Nat.pow 10 (-power).toNat
  let den := d * Nat.pow 10 power.toNat
  let low := num / den
  match readsBack m e low power, readsBack m e (low + 1) power with
  | true, false => some low
  | false, true => some (low + 1)
  | false, false => none
  | true, true =>
    let r := 2 * (num % den)
    some (if r < den ∨ (r = den ∧ low % 2 = 0) then low else low + 1)

/-- Tries grids of more and more digits. -/
def search (m : Nat) (e : Int) (point : Int) : Nat → Nat → Nat × Int
  | 0, _ => (m, e)
  | tries + 1, count =>
    let power := point - count
    match onGrid? m e power with
    | some n => (n, power)
    | none => search m e point tries (count + 1)

def dropZeros : List Nat → List Nat := fun ds => (ds.reverse.dropWhile (· == 0)).reverse

/-- The digits of the shortest decimal and the place of its point after their start. -/
def shortest (m : Nat) (e : Int) : List Nat × Int :=
  let (n, power) := search m e (decimalPoint m e) 17 1
  let ds := Numeral.digits 10 n
  (dropZeros ds, ds.length + power)

def zeros (n : Int) : List Char := List.replicate n.toNat '0'

def exponentText (n : Int) : List Char :=
  (if n < 0 then '-' else '+') :: Numeral.padZeros 2 (Numeral.natural 10 n.natAbs)

/-- Positional from `1e-04` up to below `1e+16`, with at least one digit after the point. -/
def layout (ds : List Char) (point : Int) : List Char :=
  if point - 1 < -4 ∨ 16 ≤ point - 1 then
    ds.take 1 ++ (if ds.length ≤ 1 then [] else '.' :: ds.drop 1) ++ 'e' :: exponentText (point - 1)
  else if point ≤ 0 then '0' :: '.' :: zeros (-point) ++ ds
  else if (ds.length : Int) ≤ point then ds ++ zeros (point - ds.length) ++ ['.', '0']
  else ds.take point.toNat ++ '.' :: ds.drop point.toNat

def text (x : Binary64) : String :=
  let sign := fun (negative : Bool) (cs : List Char) => String.ofList (if negative then '-' :: cs else cs)
  match x with
  | .nan => "nan"
  | .infinite s => sign s ['i', 'n', 'f']
  | .finite s 0 _ => sign s ['0', '.', '0']
  | .finite s m e =>
    let (ds, point) := shortest m e
    sign s (layout (ds.map Numeral.digitChar) point)

end DesignRules.Binary64
