import DesignRules.Diagram.Basic
import DesignRules.Interface.Reading

/-! # Reading diagrams

The attributes of a node stand either at its top level or in a nested `data` object,
and the top level wins. A diagram whose shape is wrong is rejected as a whole.
-/

namespace DesignRules

open Schema Schema.Checked

/-- The text of an address; a float that is an integer is written as one. -/
def addressText : Datum → Checked (Option String)
  | .float x =>
    match x.toInt? with
    | some n => .valid (some (Numeral.decimal n))
    | none => .valid (some x.text)
  | value => optionalText value

namespace AddressMapping

def ofFields (given : Fields) : Checked AddressMapping :=
  AddressMapping.mk
    <$> optional ⟨"baseAddress", "base_address"⟩ none addressText given
    <*> optional ⟨"addressSpace", "address_space"⟩ none addressText given

def read (value : Datum) : Checked AddressMapping := (fields value).andThen ofFields

end AddressMapping

namespace Node

/-- Fields of an object at `data` are taken in unless the top level has them. -/
def flattened (given : Fields) : Fields :=
  match given.get? "data" with
  | some (.object inner) =>
    let top := given.remove "data"
    top ++ inner.filter fun field => !top.has field.1
  | _ => given

def readLabel : Datum → Checked String
  | .null => .valid ""
  | value => ofOption .badValue value.display?

def readInterfaces : Datum → Checked (List Interface)
  | .null => .valid []
  | value => list Interface.read value

def ofFields (given : Fields) : Checked Node :=
  Node.mk
    <$> required (.same "id") textLike given
    <*> optional (.same "label") "" readLabel given
    <*> optional ⟨"modelType", "model_type"⟩ none optionalText given
    <*> optional (.same "category") none optionalText given
    <*> optional ⟨"componentId", "component_id"⟩ none optionalText given
    <*> optional ⟨"targetAddrBase", "target_addr_base"⟩ none addressText given
    <*> optional ⟨"targetAddrSpace", "target_addr_space"⟩ none addressText given
    <*> optional ⟨"addressMapping", "address_mapping"⟩ none (nullable AddressMapping.read) given
    <*> optional (.same "interfaces") [] readInterfaces given

def read (value : Datum) : Checked Node := (fields value).andThen (ofFields ∘ flattened)

end Node

namespace Connection

/-- A handle that is empty counts as absent. -/
def readHandle (value : Datum) : Checked (Option String) :=
  (scalarText value).andThen fun spelled =>
    if spelled.isTrue then (text spelled).map some else .valid none

def ofFields (given : Fields) : Checked Connection :=
  Connection.mk
    <$> optional (.same "id") "" textLike given
    <*> required (.same "source") textLike given
    <*> required (.same "target") textLike given
    <*> optional ⟨"sourceHandle", "source_handle"⟩ none readHandle given
    <*> optional ⟨"targetHandle", "target_handle"⟩ none readHandle given
    <*> optional (.same "label") none optionalText given

def read (value : Datum) : Checked Connection := (fields value).andThen ofFields

end Connection

namespace Component

def ofFields (given : Fields) : Checked Component :=
  Component.mk
    <$> required (.same "id") text given
    <*> optional (.same "name") "" text given
    <*> optional (.same "interfaces") [] (list Interface.read) given

def read (value : Datum) : Checked Component := (fields value).andThen ofFields

/-- Reads components one after the other, up to the first that is malformed. -/
def readEach (values : List Datum) : Checked (List Component) := inTurn read values

end Component

namespace Diagram

/-- Why a value is no diagram. -/
inductive Rejection where
  | notObject
  | notLists (keys : List String)
  | invalid (issues : List Issue)
  deriving DecidableEq, Repr

namespace Rejection

def message : Rejection → String
  | .notObject => "Diagram must be an object with 'nodes' and 'edges' arrays"
  | .notLists keys =>
    "Invalid diagram format. Must include nodes and edges arrays (missing or not a list: " ++
      ", ".intercalate keys ++ ")"
  | .invalid issues =>
    "Invalid diagram format: " ++ Numeral.ofNat issues.length ++ " validation error(s)"

def issues : Rejection → List Issue
  | .invalid issues => issues
  | _ => []

end Rejection

def isList : Option Datum → Bool
  | some (.list _) => true
  | _ => false

def ofFields (given : Fields) : Checked Diagram :=
  Diagram.mk
    <$> required (.same "nodes") (list Node.read) given
    <*> required (.same "edges") (list Connection.read) given

def read : Datum → Except Rejection Diagram
  | .object given =>
    match ["nodes", "edges"].filter fun key => !isList (Fields.get? given key) with
    | [] =>
      match ofFields given with
      | .valid diagram => .ok diagram
      | .invalid issues => .error (.invalid issues)
    | keys => .error (.notLists keys)
  | _ => .error .notObject

end Diagram

end DesignRules
