import DesignRules.Interface.Reading
import DesignRules.Proofs.Json
import Mathlib.Tactic.MkIffOfInductiveProp

/-! # The format of interfaces

Which JSON objects are read as interfaces. The older names of attributes count only where
the current ones give nothing, and an identifier and a name stand in for each other.
-/

namespace DesignRules

open Schema Schema.Checked

namespace Interface

def olderName? (key : String) : Option String :=
  (olderNames.find? fun names => names.2 == key).map Prod.fst

/-- What an object gives for an attribute. The older name of it counts if the name in use is
absent or null. -/
def attribute? (given : Fields) (key : String) : Option Datum :=
  ((given.given? key).or ((olderName? key).bind given.given?)).or (given.get? key)

/-- An identifier, beside which the name may be left out, or a name that is not empty in place of
an identifier that is left out. -/
def IsNamed (given : Fields) : Prop :=
  (∃ id ∈ given.get? "id", id.isScalar ∧
    ∀ name ∈ given.get? "name", name.isScalar ∨ name.isVoid) ∨
  (∀ id ∈ given.get? "id", id.isNull) ∧
    ∃ name ∈ given.get? "name", name.isScalar ∧ name.display ≠ ""

/-- The bus type, the speed and the protocol are the only other attributes that can be wrong. -/
@[mk_iff]
structure IsFormed (given : Fields) : Prop where
  named : IsNamed given
  texts : ∀ name ∈ [⟨"busType", "bus_type"⟩, Name.same "speed", Name.same "protocol"],
    ∀ value ∈ name.valueIn (attribute? given), value.isNull ∨ value.isScalar

/-- No key holds a half of a surrogate pair. -/
def HasSoundKeys (given : Fields) : Prop :=
  ∀ field ∈ given, ∀ key ∈ field.1.text?, ¬ Text.isBroken key

instance : DecidablePred IsNamed := fun _ => inferInstanceAs (Decidable (_ ∨ _))

instance : DecidablePred IsFormed := fun given => decidable_of_iff _ (isFormed_iff given).symm

instance : DecidablePred HasSoundKeys := fun given =>
  inferInstanceAs (Decidable (∀ field ∈ given, ∀ key ∈ field.1.text?, ¬ Text.isBroken key))

variable {given : Fields} {key older current : String} {value : Datum}

/-! ## Older names -/

theorem get?_renameOne (hkey : key ≠ older) :
    (renameOne given (older, current)).get? key =
      if key = current then
        ((given.given? current).or (given.given? older)).or (given.get? current)
      else given.get? key := by
  simp only [renameOne]
  rw [Fields.get?_remove, if_neg hkey]
  cases hcurrent : given.given? current with
  | some value =>
    obtain ⟨hget, -⟩ := Fields.given?_eq_some_iff.mp hcurrent
    split <;> simp_all
  | none =>
    cases holder : given.given? older with
    | some value => simp [Fields.get?_insert]
    | none => split <;> simp_all

/-- An attribute without an older name is looked up as it is. -/
theorem attribute?_of_olderName?_eq_none (h : olderName? key = none) :
    attribute? given key = given.get? key := by
  rw [attribute?, h, Option.bind_none, Option.or_none]
  cases hgiven : given.given? key with
  | some value => exact (Fields.given?_eq_some_iff.mp hgiven).1.symm
  | none => rfl

theorem get?_renamed (hkey : key ∉ olderNames.map Prod.fst) :
    (renamed given).get? key = attribute? given key := by
  obtain ⟨hwidth, haddress, htype, hfrequency⟩ :
      key ≠ "width" ∧ key ≠ "addressWidth" ∧ key ≠ "type" ∧ key ≠ "frequency" := by
    simpa [olderNames] using hkey
  simp only [renamed, olderNames, List.foldl_cons, List.foldl_nil]
  -- no name in use is an older name as well, so the four steps do not disturb each other
  by_cases hcurrent : key ∈ ["dataWidth", "addrWidth", "busType", "speed"]
  · simp only [List.mem_cons, List.not_mem_nil, or_false] at hcurrent
    rcases hcurrent with rfl | rfl | rfl | rfl <;>
      simp [get?_renameOne, Fields.given?, attribute?, olderName?, olderNames]
  · simp only [List.mem_cons, List.not_mem_nil, or_false, not_or] at hcurrent
    obtain ⟨hdata, haddr, hbus, hspeed⟩ := hcurrent
    rw [get?_renameOne hfrequency, if_neg hspeed, get?_renameOne htype, if_neg hbus,
      get?_renameOne haddress, if_neg haddr, get?_renameOne hwidth, if_neg hdata]
    refine (attribute?_of_olderName?_eq_none ?_).symm
    simp [olderName?, olderNames, Ne.symm hdata, Ne.symm haddr, Ne.symm hbus, Ne.symm hspeed]

/-! ## Identifier and name -/

/-- The fields with the value at a key read as a text if it is a scalar. -/
def respelled (key : String) (given : Fields) : Fields :=
  match given.get? key with
  | some value => given.insert key value.spelling
  | none => given

theorem spelled_eq (h : ∀ value, given.get? key = some value → value.isWritable) :
    spelled key given = .valid (respelled key given) := by
  unfold spelled respelled
  cases hkey : given.get? key with
  | none => rfl
  | some value => simp only [scalarText_eq (h value hkey), map_valid]

theorem get?_respelled (key : String) (given : Fields) (other : String) :
    (respelled key given).get? other =
      if other = key then (given.get? key).map Datum.spelling else given.get? other := by
  unfold respelled
  cases hkey : given.get? key with
  | none => split <;> simp_all
  | some value => rw [Fields.get?_insert]; rfl

theorem get?_idAsName_nameAsId (hid : key ≠ "id") (hname : key ≠ "name") :
    (idAsName (nameAsId given)).get? key = given.get? key := by
  have hfirst : (nameAsId given).get? key = given.get? key := by
    unfold nameAsId
    split
    · split <;> simp [Fields.get?_insert, hid]
    · rfl
  rw [← hfirst]
  unfold idAsName
  split
  · split <;> simp [Fields.get?_insert, hname]
  · rfl

/-- A given identifier stays and is the name unless there is one. -/
theorem idAsName_nameAsId_of_given {id : Datum} (h : given.given? "id" = some id) :
    idAsName (nameAsId given) =
      if (given.get? "name").any Datum.isTrue then given else given.insert "name" id := by
  simp [nameAsId, h, idAsName]

/-- A name that is true takes the place of the identifier. -/
theorem idAsName_nameAsId_of_name {name : Datum} (h : given.given? "id" = none)
    (hname : given.get? "name" = some name) (htrue : name.isTrue) :
    idAsName (nameAsId given) = given.insert "id" name := by
  have hnull : name.isNull = false := by
    cases name with
    | scalar s => cases s <;> first | rfl | cases htrue
    | list | object => rfl
  have hgiven : Fields.given? (given.insert "id" name) "id" = some name :=
    Fields.given?_eq_some_iff.mpr ⟨by simp [Fields.get?_insert], hnull⟩
  simp [nameAsId, h, hname, htrue, idAsName, hgiven, Fields.get?_insert]

theorem idAsName_nameAsId_of_neither (h : given.given? "id" = none)
    (hname : ∀ name ∈ given.get? "name", name.isTrue = false) :
    idAsName (nameAsId given) = given := by
  have hfirst : nameAsId given = given := by
    cases hget : given.get? "name" with
    | none => simp [nameAsId, h, hget]
    | some name => simp [nameAsId, h, hget, hname name hget]
  rw [hfirst, idAsName, h]

/-- What an identifier and a name must be to be texts once they stand in for each other. -/
theorem isValid_named_iff :
    ((∃ id ∈ (idAsName (nameAsId given)).get? "id", (text id).IsValid) ∧
      ∀ name ∈ (idAsName (nameAsId given)).get? "name", (text name).IsValid) ↔
    (∃ id ∈ given.get? "id", (text id).IsValid ∧
      ∀ name ∈ given.get? "name", name.isTrue → (text name).IsValid) ∨
    (∀ id ∈ given.get? "id", id.isNull) ∧
      ∃ name ∈ given.get? "name", name.isTrue ∧ (text name).IsValid := by
  cases hid : given.given? "id" with
  | some id =>
    obtain ⟨hget, hnull⟩ := Fields.given?_eq_some_iff.mp hid
    rw [idAsName_nameAsId_of_given hid]
    cases hname : given.get? "name" with
    | none => simp [Fields.get?_insert, hget, hnull]
    | some name =>
      by_cases htrue : name.isTrue <;> simp [Fields.get?_insert, hget, hname, hnull, htrue]
  | none =>
    have hnull := Fields.given?_eq_none_iff.mp hid
    have htext : ¬ ∃ id ∈ given.get? "id", (text id).IsValid := by
      rintro ⟨id, hget, hvalid⟩
      have := hnull id hget
      cases id with
      | scalar s => cases s <;> simp_all [Datum.isNull, text]
      | list | object => simp_all [Datum.isNull]
    -- a name that is true serves as the identifier too, and nothing else does
    by_cases htrue : ∃ name ∈ given.get? "name", name.isTrue
    · obtain ⟨name, hname, htrue⟩ := htrue
      rw [idAsName_nameAsId_of_name hid hname htrue]
      simp_all [Fields.get?_insert]
    · rw [idAsName_nameAsId_of_neither hid (by simpa using htrue)]
      grind

/-! ## Reading -/

/-- The fields after all replacements. -/
def completed (given : Fields) : Fields :=
  idAsName (nameAsId (respelled "name" (respelled "id" (renamed given))))

theorem get?_completed (hid : key ≠ "id") (hname : key ≠ "name")
    (hkey : key ∉ olderNames.map Prod.fst) :
    (completed given).get? key = attribute? given key := by
  rw [completed, get?_idAsName_nameAsId hid hname, get?_respelled, if_neg hname, get?_respelled,
    if_neg hid, get?_renamed hkey]

theorem isJson_of_attribute? (h : (Datum.object given).IsJson)
    (hvalue : attribute? given key = some value) : value.IsJson := by
  rw [attribute?, Option.or_eq_some_iff, Option.or_eq_some_iff] at hvalue
  rcases hvalue with (hgiven | ⟨-, holder⟩) | ⟨-, hget⟩
  · exact h.of_get? (Fields.given?_eq_some_iff.mp hgiven).1
  · obtain ⟨older, -, hgiven⟩ := Option.bind_eq_some_iff.mp holder
    exact h.of_get? (Fields.given?_eq_some_iff.mp hgiven).1
  · exact h.of_get? hget

theorem prepared_eq (h : (Datum.object given).IsJson) :
    prepared given = .valid (completed given) := by
  have hid : ∀ value, (renamed given).get? "id" = some value → value.isWritable := by
    intro value hvalue
    rw [get?_renamed (by decide)] at hvalue
    exact (isJson_of_attribute? h hvalue).isWritable
  have hname : ∀ value, (respelled "id" (renamed given)).get? "name" = some value →
      value.isWritable := by
    intro value hvalue
    rw [get?_respelled, if_neg (by decide), get?_renamed (by decide)] at hvalue
    exact (isJson_of_attribute? h hvalue).isWritable
  rw [prepared, spelled_eq hid, andThen_valid, spelled_eq hname, map_valid, completed,
    Function.comp_apply]

theorem isValid_identity_iff : ((∃ id ∈ (completed given).get? "id", (text id).IsValid) ∧
      ∀ name ∈ (completed given).get? "name", (text name).IsValid) ↔ IsNamed given := by
  have hid : (respelled "name" (respelled "id" (renamed given))).get? "id" =
      (given.get? "id").map Datum.spelling := by
    rw [get?_respelled, if_neg (by decide), get?_respelled, if_pos rfl, get?_renamed (by decide),
      attribute?_of_olderName?_eq_none (by decide)]
  have hname : (respelled "name" (respelled "id" (renamed given))).get? "name" =
      (given.get? "name").map Datum.spelling := by
    rw [get?_respelled, if_pos rfl, get?_respelled, if_neg (by decide), get?_renamed (by decide),
      attribute?_of_olderName?_eq_none (by decide)]
  rw [completed, isValid_named_iff, hid, hname, IsNamed]
  cases given.get? "id" <;> cases given.get? "name" <;>
    simp [isValid_text_spelling_iff, isNull_spelling, isTrue_spelling_imp_iff,
      isTrue_spelling_and_iff]

section Keys

variable {p : Scalar → Bool}

theorem any_key_renameOne (holder : p (.text older) = false) (hcurrent : p (.text current) = false)
    (given : Fields) : (renameOne given (older, current)).any (fun field => p field.1) =
      given.any fun field => p field.1 := by
  simp only [renameOne]
  rw [Fields.any_key_remove holder]
  split
  · exact Fields.any_key_insert hcurrent _ _
  · rfl

theorem any_key_respelled (hkey : p (.text key) = false) (given : Fields) :
    (respelled key given).any (fun field => p field.1) = given.any fun field => p field.1 := by
  unfold respelled
  split
  · exact Fields.any_key_insert hkey _ _
  · rfl

theorem any_key_renamed
    (h : ∀ names ∈ olderNames, p (.text names.1) = false ∧ p (.text names.2) = false)
    (given : Fields) :
    (renamed given).any (fun field => p field.1) = given.any fun field => p field.1 := by
  unfold renamed
  generalize olderNames = all at h
  induction all generalizing given with
  | nil => rfl
  | cons names rest ih =>
    obtain ⟨⟨holder, hcurrent⟩, hrest⟩ := List.forall_mem_cons.mp h
    rw [List.foldl_cons, ih _ hrest, any_key_renameOne holder hcurrent]

/-- The replacements concern only the names of attributes. -/
theorem any_key_completed (hid : p (.text "id") = false) (hname : p (.text "name") = false)
    (h : ∀ names ∈ olderNames, p (.text names.1) = false ∧ p (.text names.2) = false)
    (given : Fields) :
    (completed given).any (fun field => p field.1) = given.any fun field => p field.1 := by
  have hfirst (fields : Fields) : (nameAsId fields).any (fun field => p field.1) =
      fields.any fun field => p field.1 := by
    unfold nameAsId
    split
    · split
      · exact Fields.any_key_insert hid _ _
      · rfl
    · rfl
  have hsecond (fields : Fields) : (idAsName fields).any (fun field => p field.1) =
      fields.any fun field => p field.1 := by
    unfold idAsName
    split
    · split
      · rfl
      · exact Fields.any_key_insert hname _ _
    · rfl
  rw [completed, hsecond, hfirst, any_key_respelled hname, any_key_respelled hid, any_key_renamed h]

end Keys

theorem hasBrokenName_completed : hasBrokenName (completed given) = hasBrokenName given :=
  any_key_completed (p := fun key => key.text?.any Text.isBroken) (by decide +kernel)
    (by decide +kernel) (by decide +kernel) given

theorem hasBrokenName_eq_false_iff : hasBrokenName given = false ↔ HasSoundKeys given := by
  simp only [hasBrokenName, HasSoundKeys, List.any_eq_false]
  refine forall₂_congr fun field _ => ?_
  cases field.1 <;> simp [Scalar.text?]

theorem isValid_checkNames_iff : (checkNames given).IsValid ↔
    given.any (fun field => field.1.text?.isNone) = false := by
  rw [checkNames, isValid_map_iff, each, isValid_eachFrom_iff]
  simp [Option.isSome_iff_ne_none]

theorem isValid_checkNames_completed (h : (Datum.object given).IsJson) :
    (checkNames (completed given)).IsValid := by
  rw [isValid_checkNames_iff, any_key_completed (p := fun key => key.text?.isNone) rfl rfl
    (by decide)]
  refine List.any_eq_false.mpr fun field hfield => ?_
  obtain ⟨⟨key, hkey⟩, -⟩ := Datum.IsJson.object_iff.mp h field hfield
  simp [hkey, Scalar.text?]

theorem isValid_readDirection (h : value.isWritable) : (readDirection value).IsValid := by
  unfold readDirection
  split
  · exact isValid_valid _
  · simp [Datum.display?, h]

theorem isValid_readOptional (value : Datum) : (readOptional value).IsValid := by
  unfold readOptional
  split <;> exact isValid_valid _

section Attributes

variable {α : Type} {read : Datum → Checked α} {p : Datum → Prop} {name : Name}

/-- The replacements leave both spellings alone, but for values of older names. -/
def IsKept (name : Name) : Prop :=
  ∀ key ∈ [name.camel, name.plain], key ≠ "id" ∧ key ≠ "name" ∧ key ∉ olderNames.map Prod.fst

instance : DecidablePred IsKept := fun name =>
  inferInstanceAs (Decidable (∀ key ∈ [name.camel, name.plain], _))

theorem valueIn_completed (hname : IsKept name) :
    name.valueIn (completed given).get? = name.valueIn (attribute? given) := by
  obtain ⟨hid, hplainName, holder⟩ := hname name.camel (by simp)
  obtain ⟨hid', hplainName', holder'⟩ := hname name.plain (by simp)
  rw [Name.valueIn, Name.valueIn, get?_completed hid hplainName holder,
    get?_completed hid' hplainName' holder']

theorem isValid_optional_completed_iff (default : α) (h : (Datum.object given).IsJson)
    (hname : IsKept name) (hread : ∀ value, value.IsJson → ((read value).IsValid ↔ p value)) :
    (Schema.optional name default read (completed given)).IsValid ↔
      ∀ value ∈ name.valueIn (attribute? given), p value := by
  rw [isValid_optional_iff, valueIn_completed hname]
  exact forall₂_congr fun value hvalue =>
    hread value (Name.of_valueIn (fun _ _ => isJson_of_attribute? h) hvalue)

theorem isValid_optional_completed (default : α) (h : (Datum.object given).IsJson)
    (hname : IsKept name) (hread : ∀ value, value.IsJson → (read value).IsValid) :
    (Schema.optional name default read (completed given)).IsValid :=
  (isValid_optional_completed_iff default h hname fun value hvalue =>
    iff_true_intro (hread value hvalue)).mpr fun _ _ => trivial

end Attributes

theorem isValid_attributesOf_iff (h : (Datum.object given).IsJson) :
    (attributesOf (completed given)).IsValid ↔ IsFormed given := by
  have hdirection : (Schema.optional Field.direction .unknown readDirection
      (completed given)).IsValid :=
    isValid_optional_completed _ h (by decide) fun value hvalue =>
      isValid_readDirection hvalue.isWritable
  have hwidth {name : Name} (hname : name ∈ [Field.dataWidth, Field.addrWidth, Field.idWidth]) :
      (Schema.optional name none Width.read (completed given)).IsValid :=
    isValid_optional_completed _ h (by revert name; decide) fun value hvalue =>
      Width.isValid_read hvalue
  have hoptional : (Schema.optional Field.optional false readOptional (completed given)).IsValid :=
    isValid_optional_completed _ h (by decide) fun value _ => isValid_readOptional value
  have htext {name : Name} (hname : name ∈ [Field.busType, Field.speed, Field.protocol]) :=
    isValid_optional_completed_iff none h (by revert name; decide : IsKept name)
      fun value hvalue => isValid_optionalText_iff hvalue.isWritable
  rw [isFormed_iff, ← isValid_identity_iff]
  simp only [attributesOf, isValid_seq_iff, isValid_functor_map_iff, isValid_pure, and_true,
    hdirection, hwidth, hoptional, htext, List.mem_cons, true_or, or_true]
  simp only [isValid_required_iff, isValid_optional_iff, Field.id, Field.name, Field.busType,
    Field.speed, Field.protocol, Name.valueIn_same, List.not_mem_nil, or_false, forall_eq_or_imp,
    forall_eq, and_assoc]

theorem isValid_ofFields_completed_iff (h : (Datum.object given).IsJson) :
    (ofFields (completed given)).IsValid ↔ IsFormed given ∧ HasSoundKeys given := by
  rw [← isValid_attributesOf_iff h, ← hasBrokenName_eq_false_iff, ← hasBrokenName_completed,
    ofFields]
  cases hasBrokenName (completed given) with
  | true => simp
  | false => simp [isValid_checkNames_completed h]

theorem isValid_read_iff (h : value.IsJson) : (Interface.read value).IsValid ↔
    value.ObjectOf fun given => IsFormed given ∧ HasSoundKeys given := by
  rw [Interface.read, isValid_fields_andThen_iff]
  refine Datum.objectOf_congr h fun given hgiven => ?_
  rw [prepared_eq hgiven, andThen_valid]
  exact isValid_ofFields_completed_iff hgiven

end Interface

end DesignRules
