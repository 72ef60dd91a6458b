import DesignRules.Address.Literal
import DesignRules.Address.Size
import DesignRules.Graph.Basic

/-! # Address ranges

The addresses that a component occupies, from its base on. Components whose base or size
cannot be read occupy none.
-/

namespace DesignRules

structure AddressRange where
  node : String
  label : String
  base : Int
  size : Int
  /-- The size as it is written. -/
  space : String
  deriving DecidableEq, Repr

namespace AddressRange

/-- The last address of the range. -/
def last (r : AddressRange) : Int := r.base + r.size - 1

def overlaps (r : AddressRange) (first last : Int) : Bool :=
  !(decide (r.last < first) || decide (last < r.base))

end AddressRange

/-- What a node says about its addresses. -/
inductive Occupied where
  | nothing
  | range (r : AddressRange)
  /-- The size has too many digits to be read. -/
  | oversized
  deriving DecidableEq, Repr

def Occupied.ofTexts (node label base space : String) : Occupied :=
  match Address.ofText? base with
  | none => .nothing
  | some n =>
    if n < 0 then .nothing
    else match Address.parseSize? space with
      | none => .oversized
      | some 0 => .nothing
      | some size => .range ⟨node, label, n, size, space⟩

def Diagram.occupied (d : Diagram) (n : Node) : Occupied :=
  match filled n.addressBase, filled n.addressSpace with
  | some base, some space => .ofTexts n.id (d.label n.id) base space
  | _, _ => .nothing

end DesignRules
