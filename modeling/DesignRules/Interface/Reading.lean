import DesignRules.Interface.Basic
import DesignRules.Schema.Field
import DesignRules.Text.Parts

/-! # Reading interfaces

Older names of attributes are replaced by the current ones, an identifier and a name
stand in for each other, and names outside the schema are kept among the declared ones.
-/

namespace DesignRules.Interface

open Schema Schema.Checked

/-- The older attribute names, each with the one in use. -/
def olderNames : List (String × String) :=
  [("width", "dataWidth"), ("addressWidth", "addrWidth"), ("type", "busType"),
   ("frequency", "speed")]

/-- Moves a value from an older name to the current one unless that is given already. -/
def renameOne (given : Fields) (names : String × String) : Fields :=
  let (older, current) := names
  let moved := match given.given? current, given.given? older with
    | none, some value => given.insert current value
    | _, _ => given
  moved.remove older

def renamed (given : Fields) : Fields := olderNames.foldl renameOne given

/-- Reads the value at a key as a text if it is a scalar. -/
def spelled (key : String) (given : Fields) : Checked Fields :=
  match given.get? key with
  | some value => (scalarText value).map (given.insert key)
  | none => .valid given

def nameAsId (given : Fields) : Fields :=
  match given.given? "id", given.get? "name" with
  | none, some name => if name.isTrue then given.insert "id" name else given
  | _, _ => given

def idAsName (given : Fields) : Fields :=
  match given.given? "id" with
  | some id => if (given.get? "name").any Datum.isTrue then given else given.insert "name" id
  | none => given

def prepared (given : Fields) : Checked Fields :=
  ((spelled "id" (renamed given)).andThen (spelled "name")).map (idAsName ∘ nameAsId)

namespace Field

def id : Name := .same "id"
def name : Name := .same "name"
def busType : Name := ⟨"busType", "bus_type"⟩
def direction : Name := .same "direction"
def dataWidth : Name := ⟨"dataWidth", "data_width"⟩
def addrWidth : Name := ⟨"addrWidth", "addr_width"⟩
def idWidth : Name := ⟨"idWidth", "id_width"⟩
def speed : Name := .same "speed"
def protocol : Name := .same "protocol"
def optional : Name := .same "optional"

def all : List Name :=
  [id, name, busType, direction, dataWidth, addrWidth, idWidth, speed, protocol, optional]

end Field

def readDirection : Datum → Checked Direction
  | .null => .valid .unknown
  | value => (ofOption .badValue value.display?).map fun s =>
      Direction.ofName (Text.lower (Text.trim s))

def readOptional : Datum → Checked Bool
  | .bool true => .valid true
  | _ => .valid false

/-- The given attributes, each with the spelling in use. -/
def attributes (given : Fields) : List (Name × String) :=
  Field.all.filterMap fun name => (name.find? given).map fun entry => (name, entry.1)

/-- The given names that no attribute uses. -/
def furtherNames (given : Fields) : List String :=
  (given.filterMap (·.1.text?)).filter fun key => !((attributes given).map (·.2)).contains key

/-- All given names in camel case, and those that no attribute uses once more as they
are. -/
def declaredNames (given : Fields) : List String :=
  let all := ((attributes given).map (·.1.plain) ++ furtherNames given).eraseDups
  Text.sorted (all.map Text.camel ++ furtherNames given)

/-- All names must be texts. -/
def checkNames (given : Fields) : Checked Unit :=
  (each (fun key => ofOption .badKey key.text?) (given.map (·.1))).map fun _ => ()

def hasBrokenName (given : Fields) : Bool :=
  given.any fun field => field.1.text?.any Text.isBroken

def attributesOf (given : Fields) : Checked Interface :=
  Interface.mk
    <$> required Field.id text given
    <*> Schema.optional Field.name "" text given
    <*> Schema.optional Field.busType none optionalText given
    <*> Schema.optional Field.direction .unknown readDirection given
    <*> Schema.optional Field.dataWidth none Width.read given
    <*> Schema.optional Field.addrWidth none Width.read given
    <*> Schema.optional Field.idWidth none Width.read given
    <*> Schema.optional Field.speed none optionalText given
    <*> Schema.optional Field.protocol none optionalText given
    <*> Schema.optional Field.optional false readOptional given
    <*> pure (declaredNames given)

/-- A name with a half of a surrogate pair hides all other issues. -/
def ofFields (given : Fields) : Checked Interface :=
  if hasBrokenName given then fail .brokenText
  else Function.const Unit <$> attributesOf given <*> checkNames given

def read (value : Datum) : Checked Interface :=
  (fields value).andThen fun given => (prepared given).andThen ofFields

end DesignRules.Interface
