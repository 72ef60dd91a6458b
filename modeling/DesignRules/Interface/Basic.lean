import DesignRules.Interface.Width
import DesignRules.Text.Case
import DesignRules.Text.Parts

/-! # Interfaces

An interface is one port of a component instance: its role, its bus type, its widths
and its clock.
-/

namespace DesignRules

inductive Direction where
  | master
  | slave
  | input
  | output
  | unknown
  deriving DecidableEq, Repr

def Direction.name : Direction → String
  | .master => "master"
  | .slave => "slave"
  | .input => "in"
  | .output => "out"
  | .unknown => "unknown"

def Direction.ofName : String → Direction
  | "master" => .master
  | "slave" => .slave
  | "in" => .input
  | "out" => .output
  | _ => .unknown

namespace BusType

/-- The known spellings, in lower case, with the names they stand for. -/
def known : List (String × String) :=
  [("axi4", "AXI4"), ("axi-4", "AXI4"), ("axi", "AXI4"),
   ("axi4-lite", "AXI4-Lite"), ("axi4lite", "AXI4-Lite"),
   ("axi4-stream", "AXI4-Stream"), ("axis", "AXI4-Stream"),
   ("ahb", "AHB"), ("apb", "APB"), ("pcie", "PCIe"), ("ddr", "DDR")]

def family? (bus : String) : Option String := known.lookup (Text.lower (Text.trim bus))

/-- The name of a known bus type; an unknown one is only trimmed. -/
def normalize (bus : String) : String := (family? bus).getD (Text.trim bus)

def isAxi (bus : String) : Bool := Text.contains (Text.lower bus) "axi"

end BusType

structure Interface where
  id : String
  name : String
  busType : Option String
  direction : Direction
  dataWidth : Option Width
  addrWidth : Option Width
  idWidth : Option Width
  speed : Option String
  protocol : Option String
  optional : Bool
  /-- The names under which the attributes were given, sorted. -/
  declared : List String
  deriving DecidableEq, Repr

namespace Interface

def normalizedBusType (i : Interface) : Option String := i.busType.map BusType.normalize

def isAxi (i : Interface) : Bool := i.busType.any BusType.isAxi

def busFamily (i : Interface) : String := (i.busType.bind BusType.family?).getD "custom"

end Interface

end DesignRules
