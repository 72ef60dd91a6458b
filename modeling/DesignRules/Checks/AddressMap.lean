import DesignRules.Address.Range
import DesignRules.Checks.Context

/-! # The address map

Address ranges must not overlap each other, should start at a multiple of their size and
should keep off the reserved ranges.
-/

namespace DesignRules.Checks

def rangesOf : List Occupied → Except CheckFailure (List AddressRange)
  | [] => .ok []
  | .nothing :: rest => rangesOf rest
  | .range r :: rest => (rangesOf rest).map (r :: ·)
  | .oversized :: _ => .error .oversizedNumber

/-- The ranges of the node entries that have one, in order. -/
def addressRanges (ctx : Context) : Except CheckFailure (List AddressRange) :=
  rangesOf (ctx.diagram.nodes.map ctx.diagram.occupied)

/-- All pairs of an element with a later one. -/
def pairs {α : Type} : List α → List (α × α)
  | [] => []
  | a :: rest => rest.map (fun b => (a, b)) ++ pairs rest

def rangeDetails (r : AddressRange) : Datum := .object
  [("label", .text r.label), ("base", .text (Numeral.hex r.base)),
   ("end", .text (Numeral.hex r.last))]

def overlap (a b : AddressRange) : Violation :=
  Rule.addressOverlap.violation
    { location := a.label ++ " ↔ " ++ b.label
      description := "Address space overlap detected: [" ++ Numeral.hex a.base ++ "-" ++
        Numeral.hex a.last ++ "] overlaps with [" ++ Numeral.hex b.base ++ "-" ++
        Numeral.hex b.last ++ "]"
      suggestion := "Reassign address ranges to eliminate overlap"
      components := some [a.node, b.node]
      details := some [("component1", rangeDetails a), ("component2", rangeDetails b)] }

def addressOverlap : Check := fun ctx =>
  (addressRanges ctx).map fun ranges =>
    ((pairs ranges).filter fun (a, b) => a.overlaps b.base b.last).map fun (a, b) => overlap a b

/-- The next multiple of the size after the base. -/
def nextAligned (r : AddressRange) : Int := r.base - r.base % r.size + r.size

def misaligned (r : AddressRange) : Violation :=
  Rule.addressAlignment.violation
    { location := r.label
      description := "Address " ++ Numeral.hex r.base ++ " is not aligned to size " ++ r.space
      suggestion := "Align base address to " ++ r.space ++ " boundary (e.g., " ++
        Numeral.hex (nextAligned r) ++ ")"
      components := some [r.node]
      details := some
        [("baseAddress", .text (Numeral.hex r.base)), ("size", .text r.space),
         ("suggestedAddress", .text (Numeral.hex (nextAligned r)))] }

def addressAlignment : Check := fun ctx =>
  (addressRanges ctx).map fun ranges =>
    (ranges.filter fun r => r.base % r.size != 0).map misaligned

def reservedUse (r : AddressRange) (reserved : ReservedRange) : Violation :=
  Rule.reservedAddress.violation
    { location := r.label
      description := "Component uses reserved address space (" ++ reserved.name ++ ")"
      suggestion := "Consider moving to non-reserved address range if not intentional"
      components := some [r.node]
      details := some
        [("reservedRange", .text reserved.name),
         ("reservedStart", .text (Numeral.hex reserved.first)),
         ("reservedEnd", .text (Numeral.hex reserved.last)),
         ("componentRange", .text (Numeral.hex r.base ++ "-" ++ Numeral.hex r.last))] }

def reservedAddress : Check := fun ctx =>
  (addressRanges ctx).map fun ranges => ranges.flatMap fun r =>
    (ctx.settings.reservedRanges.filter fun reserved =>
      r.overlaps reserved.first reserved.last).map (reservedUse r)

end DesignRules.Checks
