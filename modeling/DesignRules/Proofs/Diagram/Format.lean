import DesignRules.Diagram.Reading
import DesignRules.Proofs.Interface.Format
import DesignRules.Proofs.Outcome

/-! # The format of diagrams

Which JSON values are read as diagrams. All attributes but the identifying ones may be left
out, and most may have any value; only what must be a text, a list or an object is checked.
-/

namespace DesignRules

open Schema Schema.Checked

def AddressMapping.IsFormed (given : Fields) : Prop :=
  ∀ name ∈ [⟨"baseAddress", "base_address"⟩, ⟨"addressSpace", "address_space"⟩],
    ∀ value ∈ Name.valueIn name given.get?, value.isNull ∨ value.isScalar

instance : DecidablePred AddressMapping.IsFormed := fun given =>
  inferInstanceAs (Decidable (∀ name ∈ _, ∀ value ∈ Name.valueIn name given.get?, _))

namespace Node

/-- What a node gives for an attribute, at its top level or else in the object at `data`. -/
def attribute? (given : Fields) (key : String) : Option Datum :=
  (given.get? key).or ((given.get? "data").bind fun inner => inner.get? key)

/-- A node whose interfaces are objects of a certain form. -/
@[mk_iff]
structure IsFormed (interface : Fields → Prop) (given : Fields) : Prop where
  id : ∃ id ∈ attribute? given "id", id.isScalar
  texts : ∀ name ∈ [⟨"modelType", "model_type"⟩, Name.same "category",
      ⟨"componentId", "component_id"⟩, ⟨"targetAddrBase", "target_addr_base"⟩,
      ⟨"targetAddrSpace", "target_addr_space"⟩],
    ∀ value ∈ name.valueIn (attribute? given), value.isNull ∨ value.isScalar
  mapping : ∀ value ∈ Name.valueIn ⟨"addressMapping", "address_mapping"⟩ (attribute? given),
    value.isNull ∨ value.ObjectOf AddressMapping.IsFormed
  interfaces : ∀ value ∈ attribute? given "interfaces",
    value.isNull ∨ value.ListOf fun item => item.ObjectOf interface

instance (interface : Fields → Prop) [DecidablePred interface] :
    DecidablePred (IsFormed interface) :=
  fun given => decidable_of_iff _ (isFormed_iff interface given).symm

end Node

/-- A connection without a handle may give null, an empty list or an empty object for it. -/
@[mk_iff]
structure Connection.IsFormed (given : Fields) : Prop where
  id : ∀ id ∈ given.get? "id", id.isScalar
  source : ∃ source ∈ given.get? "source", source.isScalar
  target : ∃ target ∈ given.get? "target", target.isScalar
  handles : ∀ name ∈ [⟨"sourceHandle", "source_handle"⟩, ⟨"targetHandle", "target_handle"⟩],
    ∀ value ∈ Name.valueIn name given.get?, value.isScalar ∨ value.isVoid
  label : ∀ label ∈ given.get? "label", label.isNull ∨ label.isScalar

instance : DecidablePred Connection.IsFormed := fun given =>
  decidable_of_iff _ (Connection.isFormed_iff given).symm

/-- A diagram whose interfaces are objects of a certain form. -/
def Diagram.IsFormed (interface : Fields → Prop) (value : Datum) : Prop :=
  value.ObjectOf fun given =>
    (∃ nodes ∈ given.get? "nodes",
      nodes.ListOf fun node => node.ObjectOf (Node.IsFormed interface)) ∧
    ∃ edges ∈ given.get? "edges", edges.ListOf fun edge => edge.ObjectOf Connection.IsFormed

instance (interface : Fields → Prop) [DecidablePred interface] :
    DecidablePred (Diagram.IsFormed interface) :=
  fun value => inferInstanceAs (Decidable (value.ObjectOf _))

variable {value : Datum} {given : Fields} {key : String} {name : Name}

/-! ## Addresses -/

theorem isValid_addressText_iff (h : value.isWritable) :
    (addressText value).IsValid ↔ value.isNull ∨ value.isScalar := by
  unfold addressText
  split
  case h_1 x =>
    refine iff_of_true ?_ (Or.inr rfl)
    split <;> exact isValid_valid _
  case h_2 => exact isValid_optionalText_iff h

theorem AddressMapping.isValid_read_iff (h : value.IsJson) :
    (AddressMapping.read value).IsValid ↔ value.ObjectOf AddressMapping.IsFormed := by
  rw [AddressMapping.read, isValid_fields_andThen_iff]
  refine Datum.objectOf_congr h fun given hgiven => ?_
  have haddress (name : Name) : (optional name none addressText given).IsValid ↔
      ∀ value ∈ name.valueIn given.get?, value.isNull ∨ value.isScalar :=
    isValid_optional_iff_of_isJson name none hgiven fun value hvalue =>
      isValid_addressText_iff hvalue.isWritable
  simp only [AddressMapping.ofFields, isValid_seq_iff, isValid_functor_map_iff, haddress,
    AddressMapping.IsFormed, List.forall_mem_cons, List.not_mem_nil, false_imp_iff, implies_true,
    and_true]

/-! ## Nodes -/

namespace Node

theorem get?_flattened (hkey : key ≠ "data") :
    (flattened given).get? key = attribute? given key := by
  unfold flattened
  split
  case h_1 inner hdata =>
    rw [Fields.get?_merged, Fields.get?_remove, if_neg hkey, attribute?, hdata]
    rfl
  case h_2 hdata =>
    have hnone : ((given.get? "data").bind fun inner => inner.get? key) = none := by
      refine Option.bind_eq_none_iff.mpr fun inner hinner => ?_
      cases inner with
      | object inner => exact absurd hinner (hdata inner)
      | _ => rfl
    rw [attribute?, hnone, Option.or_none]

theorem isJson_flattened (h : (Datum.object given).IsJson) :
    (Datum.object (flattened given)).IsJson := by
  unfold flattened
  split
  case h_1 inner hdata =>
    have hinner := h.of_get? hdata
    rw [Datum.IsJson.object_iff] at h hinner ⊢
    intro field hfield
    rcases List.mem_append.mp hfield with htop | hnested
    · exact h field (List.mem_filter.mp htop).1
    · exact hinner field (List.mem_filter.mp hnested).1
  case h_2 => exact h

section Attributes

variable {α : Type} {read : Datum → Checked α} {p : Datum → Prop}

theorem valueIn_flattened (hname : name.camel ≠ "data" ∧ name.plain ≠ "data") :
    name.valueIn (flattened given).get? = name.valueIn (attribute? given) := by
  rw [Name.valueIn, Name.valueIn, get?_flattened hname.1, get?_flattened hname.2]

theorem isValid_required_flattened_iff (name : Name) (h : (Datum.object given).IsJson)
    (hname : name.camel ≠ "data" ∧ name.plain ≠ "data")
    (hread : ∀ value, value.IsJson → ((read value).IsValid ↔ p value)) :
    (required name read (flattened given)).IsValid ↔
      ∃ value ∈ name.valueIn (attribute? given), p value := by
  rw [isValid_required_iff_of_isJson name (isJson_flattened h) hread, valueIn_flattened hname]

theorem isValid_optional_flattened_iff (name : Name) (default : α)
    (h : (Datum.object given).IsJson) (hname : name.camel ≠ "data" ∧ name.plain ≠ "data")
    (hread : ∀ value, value.IsJson → ((read value).IsValid ↔ p value)) :
    (optional name default read (flattened given)).IsValid ↔
      ∀ value ∈ name.valueIn (attribute? given), p value := by
  rw [isValid_optional_iff_of_isJson name default (isJson_flattened h) hread,
    valueIn_flattened hname]

end Attributes

theorem isValid_readLabel (h : value.isWritable) : (readLabel value).IsValid := by
  unfold readLabel
  split
  · exact isValid_valid _
  · simp [Datum.display?, h]

theorem isValid_readInterfaces_iff (h : value.IsJson) : (readInterfaces value).IsValid ↔
    value.isNull ∨ value.ListOf fun item =>
      item.ObjectOf fun given => Interface.IsFormed given ∧ Interface.HasSoundKeys given := by
  rw [← Datum.listOf_congr h fun item hitem => Interface.isValid_read_iff hitem, ← isValid_list_iff]
  unfold readInterfaces
  split
  · simp [Datum.isNull]
  · simp_all [Datum.isNull]

theorem isValid_ofFields_flattened_iff (h : (Datum.object given).IsJson) :
    (ofFields (flattened given)).IsValid ↔ IsFormed (fun given =>
      Interface.IsFormed given ∧ Interface.HasSoundKeys given) given := by
  have hid := isValid_required_flattened_iff (.same "id") h (by decide)
    fun value hvalue => isValid_textLike_iff hvalue.isWritable
  have hlabel : (optional (.same "label") "" readLabel (flattened given)).IsValid :=
    (isValid_optional_flattened_iff _ _ h (by decide) fun value hvalue =>
      iff_true_intro (isValid_readLabel hvalue.isWritable)).mpr fun _ _ => trivial
  have htext {name : Name} (hname : name.camel ≠ "data" ∧ name.plain ≠ "data") :=
    isValid_optional_flattened_iff name none h hname fun value hvalue =>
      isValid_optionalText_iff hvalue.isWritable
  have haddress {name : Name} (hname : name.camel ≠ "data" ∧ name.plain ≠ "data") :=
    isValid_optional_flattened_iff name none h hname fun value hvalue =>
      isValid_addressText_iff hvalue.isWritable
  have hmapping := isValid_optional_flattened_iff ⟨"addressMapping", "address_mapping"⟩ none h
    (by decide) fun value hvalue =>
      isValid_nullable_iff.trans (or_congr_right (AddressMapping.isValid_read_iff hvalue))
  have hinterfaces := isValid_optional_flattened_iff (.same "interfaces") [] h (by decide)
    fun value hvalue => isValid_readInterfaces_iff hvalue
  rw [isFormed_iff]
  simp only [ofFields, isValid_seq_iff, isValid_functor_map_iff, hid, hlabel, and_true]
  rw [htext (by decide), htext (by decide), htext (by decide), haddress (by decide),
    haddress (by decide), hmapping, hinterfaces]
  simp only [Name.valueIn_same, List.forall_mem_cons, List.not_mem_nil, false_imp_iff,
    implies_true, and_true, and_assoc]

theorem isValid_read_iff (h : value.IsJson) : (Node.read value).IsValid ↔
    value.ObjectOf (IsFormed fun given =>
      Interface.IsFormed given ∧ Interface.HasSoundKeys given) := by
  rw [Node.read, isValid_fields_andThen_iff]
  exact Datum.objectOf_congr h fun given hgiven => isValid_ofFields_flattened_iff hgiven

end Node

/-! ## Connections -/

namespace Connection

theorem isValid_readHandle_iff (h : value.isWritable) :
    (readHandle value).IsValid ↔ value.isScalar ∨ value.isVoid := by
  rw [readHandle, scalarText_eq h, ← isTrue_spelling_imp_iff, ← isValid_text_spelling_iff]
  rw [andThen_valid]
  split <;> simp_all

theorem isValid_read_iff (h : value.IsJson) :
    (Connection.read value).IsValid ↔ value.ObjectOf IsFormed := by
  rw [Connection.read, isValid_fields_andThen_iff]
  refine Datum.objectOf_congr h fun given hgiven => ?_
  have hid := isValid_optional_iff_of_isJson (.same "id") "" hgiven fun value hvalue =>
    isValid_textLike_iff hvalue.isWritable
  have hend {name : Name} := isValid_required_iff_of_isJson name hgiven fun value hvalue =>
    isValid_textLike_iff hvalue.isWritable
  have hhandle {name : Name} := isValid_optional_iff_of_isJson name none hgiven
    fun value hvalue => isValid_readHandle_iff hvalue.isWritable
  have hlabel := isValid_optional_iff_of_isJson (.same "label") none hgiven fun value hvalue =>
    isValid_optionalText_iff hvalue.isWritable
  rw [isFormed_iff]
  simp only [ofFields, isValid_seq_iff, isValid_functor_map_iff, hid, hend, hhandle, hlabel,
    Name.valueIn_same, List.forall_mem_cons, List.not_mem_nil, false_imp_iff, implies_true,
    and_true, and_assoc]

end Connection

/-! ## Diagrams -/

namespace Diagram

theorem isValid_ofFields_iff : (ofFields given).IsValid ↔
    (∃ nodes ∈ given.get? "nodes", nodes.ListOf fun node => (Node.read node).IsValid) ∧
    ∃ edges ∈ given.get? "edges", edges.ListOf fun edge => (Connection.read edge).IsValid := by
  simp only [ofFields, isValid_seq_iff, isValid_functor_map_iff, isValid_required_iff,
    isValid_list_iff, Name.valueIn_same]

theorem isList_of_listOf {p : Datum → Prop} {o : Option Datum} (h : ∃ value ∈ o, value.ListOf p) :
    isList o := by
  obtain ⟨value, rfl, hvalue⟩ := h
  cases value with
  | list items => rfl
  | scalar s => exact hvalue.elim
  | object given => exact hvalue.elim

/-- The look at the lists beforehand rejects nothing more. -/
theorem exists_read_object_iff :
    (∃ d, Diagram.read (.object given) = .ok d) ↔ (ofFields given).IsValid := by
  constructor
  · rintro ⟨d, hd⟩
    simp only [Diagram.read] at hd
    split at hd
    case h_1 =>
      split at hd
      case h_1 diagram hvalid => exact ⟨diagram, hvalid⟩
      case h_2 => cases hd
    case h_2 => cases hd
  · intro hvalid
    obtain ⟨hnodes, hedges⟩ := isValid_ofFields_iff.mp hvalid
    obtain ⟨diagram, hdiagram⟩ := hvalid
    refine ⟨diagram, ?_⟩
    simp [Diagram.read, isList_of_listOf hnodes, isList_of_listOf hedges, hdiagram]

/-- A JSON value is read as a diagram exactly if it has the form of one and no key of an interface
holds a half of a surrogate pair. -/
theorem exists_read_iff {value : Datum} (h : value.IsJson) :
    (∃ d, Diagram.read value = .ok d) ↔
      IsFormed (fun given => Interface.IsFormed given ∧ Interface.HasSoundKeys given) value := by
  cases value with
  | scalar s => simp [Diagram.read, IsFormed, Datum.ObjectOf]
  | list items => simp [Diagram.read, IsFormed, Datum.ObjectOf]
  | object given =>
    rw [exists_read_object_iff, isValid_ofFields_iff]
    have hnode (item : Datum) (hitem : item.IsJson) := Node.isValid_read_iff hitem
    have hedge (item : Datum) (hitem : item.IsJson) := Connection.isValid_read_iff hitem
    exact and_congr
      (exists_congr fun nodes => and_congr_right fun hnodes =>
        Datum.listOf_congr (h.of_get? hnodes) hnode)
      (exists_congr fun edges => and_congr_right fun hedges =>
        Datum.listOf_congr (h.of_get? hedges) hedge)

/-- One node in the nested and one in the flat form, with older names and without an identifier,
and a connection without handles. -/
def mixedForms : Datum := .object
  [("nodes", .list
      [.object [("id", .int 1), ("data", .object [("label", .null), ("model_type", .bool true),
        ("interfaces", .list [.object [("name", .text "m"), ("type", .text "axi"),
          ("width", .list [.text "64"])]])])],
       .object [("id", .text "mem"), ("interfaces", .null),
        ("addressMapping", .object [("base_address", .int 4096)])]]),
   ("edges", .list [.object [("source", .int 1), ("target", .text "mem"),
      ("targetHandle", .list [])]])]

theorem exists_read_mixedForms : mixedForms.IsJson ∧ (∃ d, Diagram.read mixedForms = .ok d) ∧
    IsFormed (fun given => Interface.IsFormed given ∧ Interface.HasSoundKeys given) mixedForms := by
  have hjson : mixedForms.IsJson := by
    simp only [mixedForms, Datum.IsJson.object_iff, Datum.IsJson.list_iff, Datum.IsJson.text_iff,
      Datum.IsJson.int_iff, Datum.IsJson.null, Datum.IsJson.bool, List.forall_mem_cons,
      Scalar.text.injEq, exists_eq', List.not_mem_nil, false_imp_iff, implies_true]
    decide +kernel
  have hformed : IsFormed (fun given => Interface.IsFormed given ∧ Interface.HasSoundKeys given)
      mixedForms := by
    decide +kernel
  exact ⟨hjson, (exists_read_iff hjson).mpr hformed, hformed⟩

/-- An interface with half of a surrogate pair as a further key. -/
def halfKey : Datum := .object
  [("nodes", .list [.object [("id", .text "n"), ("interfaces", .list [.object
      [("id", .text "p"), (.text (String.singleton (Text.ofCode 0xd800)), .int 1)]])]]),
   ("edges", .list [])]

/-- The form alone does not make it readable. -/
theorem not_exists_read_halfKey : halfKey.IsJson ∧ IsFormed Interface.IsFormed halfKey ∧
    ¬ ∃ d, Diagram.read halfKey = .ok d := by
  have hread : (Diagram.read halfKey).map (fun _ => ()) = .error (.invalid [⟨.brokenText,
      [.key "nodes", .index 0, .key "interfaces", .index 0]⟩]) := by
    decide +kernel
  refine ⟨?_, by decide +kernel, ?_⟩
  · simp only [halfKey, Datum.IsJson.object_iff, Datum.IsJson.list_iff, Datum.IsJson.text_iff,
      Datum.IsJson.int_iff, List.forall_mem_cons, Scalar.text.injEq, exists_eq', List.not_mem_nil,
      false_imp_iff, implies_true]
    decide +kernel
  · rintro ⟨d, hd⟩
    exact nomatch hd.symm.trans (Outcome.map_eq_error_iff.mp hread)

end Diagram

end DesignRules
