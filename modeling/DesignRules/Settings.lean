import DesignRules.Address.Literal
import DesignRules.Schema.Field

/-! # Settings

The thresholds and tables that the rules refer to, and the options of one run. What a
configuration does not set has its default.
-/

namespace DesignRules

open Schema Schema.Checked

/-- A range of addresses kept for a purpose, with both ends. -/
structure ReservedRange where
  name : String
  first : Int
  last : Int
  deriving DecidableEq, Repr

namespace ReservedRange

def address (value : Datum) : Checked Int :=
  match Address.read value with
  | .ok n => .valid n
  | .error _ => fail .badValue

def ofFields (given : Fields) : Checked ReservedRange :=
  ReservedRange.mk
    <$> required (.same "name") text given
    <*> required (.same "start") address given
    <*> required (.same "end") address given

def read (value : Datum) : Checked ReservedRange := (fields value).andThen ofFields

end ReservedRange

structure Settings where
  reservedRanges : List ReservedRange
  canonicalWidths : List Int
  interconnectCategories : List String
  interconnectKeywords : List String
  maxFanout : Int
  maxPathDepth : Int
  longPathThreshold : Int
  namePattern : String
  deriving DecidableEq, Repr

namespace Settings

def default : Settings where
  reservedRanges := [⟨"Boot ROM", 0, 0x000fffff⟩, ⟨"High vectors", 0xffff0000, 0xffffffff⟩]
  canonicalWidths := [8, 16, 32, 64, 128, 256, 512, 1024, 2048]
  interconnectCategories := ["Interconnect"]
  interconnectKeywords := ["crossbar", "arbiter", "interconnect"]
  maxFanout := 16
  maxPathDepth := 5
  longPathThreshold := 4
  namePattern := "^[a-zA-Z][a-zA-Z0-9_-]*$"

def ofFields (given : Fields) : Checked Settings :=
  Settings.mk
    <$> optional (.same "reserved_ranges") default.reservedRanges (list ReservedRange.read) given
    <*> optional (.same "canonical_data_widths") default.canonicalWidths (list integer) given
    <*> optional (.same "interconnect_categories") default.interconnectCategories (list text) given
    <*> optional (.same "interconnect_keywords") default.interconnectKeywords (list text) given
    <*> optional (.same "max_interconnect_fanout") default.maxFanout integer given
    <*> optional (.same "max_path_depth") default.maxPathDepth integer given
    <*> optional (.same "long_path_threshold") default.longPathThreshold integer given
    <*> optional (.same "interface_name_pattern") default.namePattern text given

def read (value : Datum) : Checked Settings := (fields value).andThen ofFields

/-- The settings as data, with the bounds of the reserved ranges written as told. -/
def toFields (bound : Int → Datum) (s : Settings) : Fields :=
  [("reserved_ranges", .list (s.reservedRanges.map fun r => .object
     [("name", .text r.name), ("start", bound r.first), ("end", bound r.last)])),
   ("canonical_data_widths", .list (s.canonicalWidths.map .int)),
   ("interconnect_categories", .texts s.interconnectCategories),
   ("interconnect_keywords", .texts s.interconnectKeywords),
   ("max_interconnect_fanout", .int s.maxFanout),
   ("max_path_depth", .int s.maxPathDepth),
   ("long_path_threshold", .int s.longPathThreshold),
   ("interface_name_pattern", .text s.namePattern)]

end Settings

structure Options where
  checkOptionalPorts : Bool
  deriving DecidableEq, Repr

namespace Options

def default : Options := ⟨false⟩

def ofFields (given : Fields) : Checked Options :=
  Options.mk <$> optional ⟨"checkOptionalPorts", "check_optional_ports"⟩ false flag given

def read (value : Datum) : Checked Options := (fields value).andThen ofFields

end Options

end DesignRules
