import DesignRules.Violation.Reading

/-! # Collecting violations

Violations are numbered in the order in which they are added, from one and without gaps.
-/

namespace DesignRules

structure Collector where
  violations : List Violation
  total : Nat

namespace Collector

def empty : Collector := ⟨[], 0⟩

def number (n : Nat) (v : Violation) : Violation :=
  { v with id := "DRC-VIOLATION-" ++ Numeral.ofNat n }

def add (c : Collector) (v : Violation) : Collector where
  violations := c.violations ++ [number (c.total + 1) v]
  total := c.total + 1

def extend (c : Collector) (vs : List Violation) : Collector := vs.foldl add c

def summary (c : Collector) : Summary := .of c.violations

/-- Adds violations given as data, up to the first that cannot be made. -/
def extendSpecs (c : Collector) : List Datum → Collector × Option Violation.SpecError
  | [] => (c, none)
  | spec :: rest =>
    match Violation.ofSpec spec with
    | .ok v => (c.add v).extendSpecs rest
    | .error e => (c, some e)

end Collector

end DesignRules
