import DesignRules.Proofs.Interface.Format
import DesignRules.Proofs.Schema.Writing
import Mathlib.Data.List.Basic

/-! # Older names of attributes

The older name of an attribute counts exactly where the camel-case spelling of its current name
gives nothing, whatever stands at the other spelling.
-/

namespace DesignRules

open Schema Schema.Checked

namespace Schema.Checked

variable {α β : Type}

/-- What was read, if it was accepted. -/
def toOption : Checked α → Option α
  | .valid a => some a
  | .invalid _ => none

theorem toOption_eq_some_iff {c : Checked α} {a : α} : c.toOption = some a ↔ c = .valid a := by
  cases c <;> simp [toOption]

theorem toOption_seq (f : Checked (α → β)) (c : Checked α) :
    (f <*> c).toOption = f.toOption.bind fun f => c.toOption.map f := by
  cases f <;> cases c <;> rfl

theorem toOption_congr {c c' : Checked Unit} (h : c.IsValid ↔ c'.IsValid) :
    c.toOption = c'.toOption := by
  cases c <;> cases c' <;> simp_all [toOption]

end Schema.Checked

namespace Interface

/-! ## Fields that read alike -/

/-- The names that the replacements deal with: the older ones and the preferred ones of all
attributes. -/
def schemaKeys : List String := olderNames.map Prod.fst ++ Field.all.map Name.camel

def isFurther (key : Scalar) : Bool := schemaKeys.all fun name => key != .text name

def further (given : Fields) : Fields := given.filter fun field => isFurther field.1

/-- No older name is left, the same is found at every key, and the fields beside the schema are the
same ones. -/
structure Alike (a b : Fields) : Prop where
  renamed : ∀ names ∈ olderNames, a.get? names.1 = none
  get? : ∀ key, a.get? key = b.get? key
  further : further a = further b

variable {a b given : Fields} {key older current : String} {value : Datum}

theorem isFurther_eq_false_iff {k : Scalar} :
    isFurther k = false ↔ ∃ key ∈ schemaKeys, k = .text key := by
  simp [isFurther]

theorem isFurther_of_mem (h : key ∈ schemaKeys) : isFurther (.text key) = false :=
  isFurther_eq_false_iff.mpr ⟨key, h, rfl⟩

theorem further_insert (h : key ∈ schemaKeys) (given : Fields) (value : Datum) :
    further (given.insert (.text key) value) = further given :=
  Fields.filter_insert (isFurther_of_mem h) given value

theorem further_remove (h : key ∈ schemaKeys) (given : Fields) :
    further (given.remove key) = further given :=
  Fields.filter_remove (isFurther_of_mem h) given

namespace Alike

theorem insert (h : Alike a b) (hkey : key ∈ Field.all.map Name.camel) (value : Datum) :
    Alike (a.insert (.text key) value) (b.insert (.text key) value) where
  renamed names hnames := by
    have hne : ∀ key ∈ Field.all.map Name.camel, ∀ names ∈ olderNames, names.1 ≠ key := by decide
    rw [Fields.get?_insert, if_neg (hne key hkey names hnames), h.renamed names hnames]
  get? other := by rw [Fields.get?_insert, Fields.get?_insert, h.get?]
  further := by
    have hschema : key ∈ schemaKeys := List.mem_append_right _ hkey
    rw [further_insert hschema, further_insert hschema, h.further]

theorem given? (h : Alike a b) (key : String) : a.given? key = b.given? key := by
  rw [Fields.given?, Fields.given?, h.get?]

theorem nameAsId (h : Alike a b) : Alike (nameAsId a) (nameAsId b) := by
  unfold Interface.nameAsId
  rw [h.given?, h.get?]
  split
  · split
    · exact h.insert (by decide) _
    · exact h
  · exact h

theorem idAsName (h : Alike a b) : Alike (idAsName a) (idAsName b) := by
  unfold Interface.idAsName
  rw [h.given?, h.get?]
  split
  · split
    · exact h
    · exact h.insert (by decide) _
  · exact h

theorem find? (h : Alike a b) (name : Name) : name.find? a = name.find? b := by
  rw [Name.find?, Name.find?, h.get?, h.get?]

theorem attributes (h : Alike a b) : attributes a = attributes b := by
  unfold Interface.attributes
  simp only [h.find?]

/-- A property of keys that no name of the schema has is one of the fields beside the schema. -/
theorem any_key (h : Alike a b) {p : Scalar → Bool}
    (hp : ∀ key ∈ schemaKeys, p (.text key) = false) :
    a.any (fun field => p field.1) = b.any fun field => p field.1 := by
  have hfurther (fields : Fields) : fields.any (fun field => p field.1) =
      (Interface.further fields).any fun field => p field.1 := by
    rw [Interface.further, List.any_filter]
    congr 1
    funext field
    cases hfield : isFurther field.1 with
    | true => rfl
    | false =>
      obtain ⟨key, hkey, heq⟩ := isFurther_eq_false_iff.mp hfield
      rw [heq, hp key hkey]
      rfl
  rw [hfurther a, hfurther b, h.further]

end Alike

/-- A camel-case name that is given is in use. -/
theorem contains_attributes_of_camel {name : Name} (hname : name ∈ Field.all)
    (h : given.get? name.camel = some value) :
    ((attributes given).map (·.2)).contains name.camel := by
  rw [List.contains_iff_mem, List.mem_map]
  refine ⟨(name, name.camel), List.mem_filterMap.mpr ⟨name, hname, ?_⟩, rfl⟩
  simp [Name.find?, h]

/-- The further names are found among the fields beside the schema. -/
theorem furtherNames_eq (h : ∀ names ∈ olderNames, given.get? names.1 = none) :
    furtherNames given = ((further given).filterMap (·.1.text?)).filter
      fun key => !((attributes given).map (·.2)).contains key := by
  rw [furtherNames, further, List.filter_filterMap, List.filter_filterMap, List.filterMap_filter]
  refine List.filterMap_congr fun field hfield => ?_
  cases hkey : isFurther field.1 with
  | true => rfl
  | false =>
    obtain ⟨key, hmem, heq⟩ := isFurther_eq_false_iff.mp hkey
    obtain ⟨value, hvalue⟩ := Fields.has_text_iff.mp
      (List.any_eq_true.mpr ⟨field, hfield, Scalar.same_text_iff.mpr heq⟩)
    -- a name of the schema is either an older one, which is gone, or in use
    rcases List.mem_append.mp hmem with holder | hcamel
    · obtain ⟨names, hnames, rfl⟩ := List.mem_map.mp holder
      exact nomatch hvalue.symm.trans (h names hnames)
    · obtain ⟨name, hname, rfl⟩ := List.mem_map.mp hcamel
      have hused := contains_attributes_of_camel hname hvalue
      rw [heq]
      simp only [Scalar.text?, Option.filter_some, hused, Bool.not_true, Bool.false_eq_true,
        if_false]

namespace Alike

theorem declaredNames (h : Alike a b) : declaredNames a = declaredNames b := by
  have hb : ∀ names ∈ olderNames, b.get? names.1 = none := fun names hnames =>
    (h.get? names.1).symm.trans (h.renamed names hnames)
  have hnames : furtherNames a = furtherNames b := by
    rw [furtherNames_eq h.renamed, furtherNames_eq hb, h.further, h.attributes]
  rw [Interface.declaredNames, Interface.declaredNames, hnames, h.attributes]

theorem attributesOf (h : Alike a b) : attributesOf a = attributesOf b := by
  simp only [Interface.attributesOf, required, Schema.optional, h.find?, h.declaredNames]

theorem ofFields (h : Alike a b) : (ofFields a).toOption = (ofFields b).toOption := by
  have hbroken : hasBrokenName a = hasBrokenName b :=
    h.any_key (p := fun key => key.text?.any Text.isBroken) (by decide +kernel)
  have hnames : (checkNames a).toOption = (checkNames b).toOption := by
    refine toOption_congr ?_
    rw [isValid_checkNames_iff, isValid_checkNames_iff,
      h.any_key (p := fun key => key.text?.isNone) fun _ _ => rfl]
  rw [Interface.ofFields, Interface.ofFields, hbroken, h.attributesOf]
  split
  · rfl
  · rw [toOption_seq, toOption_seq, hnames]

theorem spelled_andThen {α : Type} {read : Fields → Checked α} (h : Alike a b)
    (hkey : key ∈ Field.all.map Name.camel)
    (hread : ∀ a b, Alike a b → (read a).toOption = (read b).toOption) :
    ((spelled key a).andThen read).toOption = ((spelled key b).andThen read).toOption := by
  unfold spelled
  rw [h.get?]
  cases b.get? key with
  | none => exact hread a b h
  | some value =>
    cases hvalue : scalarText value with
    | valid text => simpa [hvalue] using hread _ _ (h.insert hkey text)
    | invalid issues => simp [hvalue, map, andThen]

end Alike

/-! ## Renaming -/

/-- The interface that the fields of an object describe, if they describe one. -/
def parsed? (given : Fields) : Option Interface := (Interface.read (.object given)).toOption

theorem parsed?_eq (given : Fields) : parsed? given =
    ((spelled "id" (renamed given)).andThen fun given => (spelled "name" given).andThen fun given =>
      ofFields (idAsName (nameAsId given))).toOption := by
  unfold parsed? Interface.read fields prepared
  rw [andThen_valid]
  cases spelled "id" (renamed given) with
  | invalid issues => rfl
  | valid given =>
    rw [andThen_valid, andThen_valid]
    cases spelled "name" given <;> rfl

theorem parsed?_congr (h : Alike (renamed a) (renamed b)) : parsed? a = parsed? b := by
  rw [parsed?_eq, parsed?_eq]
  refine h.spelled_andThen (by decide) fun a b h => h.spelled_andThen (by decide) fun a b h => ?_
  exact h.nameAsId.idAsName.ofFields

theorem get?_renameOne_older (given : Fields) :
    (renameOne given (older, current)).get? older = none := by
  rw [renameOne, Fields.get?_remove, if_pos rfl]

theorem get?_renamed_older (h : older ∈ olderNames.map Prod.fst) :
    (renamed given).get? older = none := by
  simp only [olderNames, List.map_cons, List.map_nil, List.mem_cons, List.not_mem_nil,
    or_false] at h
  rcases h with rfl | rfl | rfl | rfl <;>
    simp [renamed, olderNames, get?_renameOne, get?_renameOne_older]

theorem further_renameOne (holder : older ∈ schemaKeys) (hcurrent : current ∈ schemaKeys)
    (given : Fields) : further (renameOne given (older, current)) = further given := by
  rw [renameOne, further_remove holder]
  split
  · exact further_insert hcurrent _ _
  · rfl

theorem further_renamed (given : Fields) : further (renamed given) = further given := by
  have hschema : ∀ names ∈ olderNames, names.1 ∈ schemaKeys ∧ names.2 ∈ schemaKeys := by decide
  unfold renamed
  generalize olderNames = all at hschema
  induction all generalizing given with
  | nil => rfl
  | cons names rest ih =>
    obtain ⟨⟨holder, hcurrent⟩, hrest⟩ := List.forall_mem_cons.mp hschema
    rw [List.foldl_cons, ih _ hrest, further_renameOne holder hcurrent]

/-- Objects that give the same for all attributes are read alike. -/
theorem parsed?_eq_of_attribute?
    (hget : ∀ key ∉ olderNames.map Prod.fst, attribute? a key = attribute? b key)
    (hfurther : further a = further b) : parsed? a = parsed? b := by
  refine parsed?_congr ⟨fun names hnames => ?_, fun key => ?_, ?_⟩
  · exact get?_renamed_older (List.mem_map_of_mem hnames)
  · by_cases hkey : key ∈ olderNames.map Prod.fst
    · rw [get?_renamed_older hkey, get?_renamed_older hkey]
    · rw [get?_renamed hkey, get?_renamed hkey, hget key hkey]
  · rw [further_renamed, further_renamed, hfurther]

/-! ## One attribute -/

/-- The attributes with an older name, under it. -/
def olderFields : List (String × Name) :=
  [("width", Field.dataWidth), ("addressWidth", Field.addrWidth), ("type", Field.busType),
   ("frequency", Field.speed)]

theorem attribute?_congr (hget : a.get? key = b.get? key)
    (holder : ∀ older ∈ olderName? key, a.get? older = b.get? older) :
    attribute? a key = attribute? b key := by
  cases hname : olderName? key with
  | none => simp [attribute?, Fields.given?, hname, hget]
  | some older => simp [attribute?, Fields.given?, hname, hget, holder older hname]

section One

variable {name : Name} (h : (older, name) ∈ olderFields)

include h

theorem older_ne_camel : older ≠ name.camel := by
  have hne : ∀ field ∈ olderFields, field.1 ≠ field.2.camel := by decide
  exact hne _ h

theorem schemaKeys_of_olderFields : older ∈ schemaKeys ∧ name.camel ∈ schemaKeys := by
  have hmem : ∀ field ∈ olderFields, field.1 ∈ schemaKeys ∧ field.2.camel ∈ schemaKeys := by decide
  exact hmem _ h

theorem olderName?_eq_some_iff : olderName? key = some older ↔ key = name.camel := by
  constructor
  · intro hkey
    obtain ⟨names, hfind, hfst⟩ := Option.map_eq_some_iff.mp hkey
    have hcurrent : names.2 = key := by simpa using List.find?_some hfind
    have hnames : ∀ field ∈ olderFields, ∀ names ∈ olderNames,
        names.1 = field.1 → names.2 = field.2.camel := by decide
    rw [← hcurrent]
    exact hnames _ h names (List.mem_of_find?_eq_some hfind) hfst
  · rintro rfl
    have hnames : ∀ field ∈ olderFields, olderName? field.2.camel = some field.1 := by decide
    exact hnames _ h

/-- Objects that differ at most at the two names are read alike if they give the same for the
attribute. -/
theorem parsed?_eq_of_camel
    (hsame : ∀ key, key ≠ older → key ≠ name.camel → a.get? key = b.get? key)
    (hcamel : attribute? a name.camel = attribute? b name.camel)
    (hfurther : further a = further b) : parsed? a = parsed? b := by
  have hcurrent : ∀ field ∈ olderFields, field.1 ∈ olderNames.map Prod.fst ∧
      field.2.camel ∉ olderNames.map Prod.fst := by decide
  have holders : ∀ key other, olderName? key = some other → other ∈ olderNames.map Prod.fst := by
    intro key other hother
    obtain ⟨names, hfind, rfl⟩ := Option.map_eq_some_iff.mp hother
    exact List.mem_map_of_mem (List.mem_of_find?_eq_some hfind)
  refine parsed?_eq_of_attribute? (fun key hkey => ?_) hfurther
  -- every other attribute has another older name, if it has one
  by_cases heq : key = name.camel
  · rw [heq, hcamel]
  · refine attribute?_congr (hsame key (fun hold => hkey ?_) heq) fun other hother => ?_
    · exact hold ▸ (hcurrent _ h).1
    · refine hsame other (fun hold => heq ?_) fun hold => (hcurrent _ h).2 ?_
      · exact (olderName?_eq_some_iff h).mp (hold ▸ hother)
      · exact hold ▸ holders key other hother

theorem attribute?_camel (given : Fields) : attribute? given name.camel =
    ((given.given? name.camel).or (given.given? older)).or (given.get? name.camel) := by
  rw [attribute?, (olderName?_eq_some_iff h).mpr rfl, Option.bind_some]

/-- A value at the camel-case spelling wins, and without a value at the older name there is nothing
to win over. -/
theorem parsed?_remove (hwins : (given.given? name.camel).isSome ∨ given.given? older = none) :
    parsed? (given.remove older) = parsed? given := by
  have hne := (older_ne_camel h).symm
  have hremoved : (given.remove older).given? older = none := by
    rw [Fields.given?, Fields.get?_remove, if_pos rfl]
    rfl
  refine parsed?_eq_of_camel h (fun key hkey _ => ?_) ?_
    (further_remove (schemaKeys_of_olderFields h).1 given)
  · rw [Fields.get?_remove, if_neg hkey]
  · rw [attribute?_camel h, attribute?_camel h, hremoved, Fields.given?, Fields.get?_remove,
      if_neg hne, ← Fields.given?]
    rcases hwins with hcamel | holder
    · obtain ⟨value, hvalue⟩ := Option.isSome_iff_exists.mp hcamel
      rw [hvalue]
      rfl
    · rw [holder]

/-- Without a value at the camel-case spelling, one at the older name counts as one. -/
theorem parsed?_of_older (hcamel : given.given? name.camel = none)
    (holder : given.given? older = some value) :
    parsed? given = parsed? ((given.remove older).insert (.text name.camel) value) := by
  obtain ⟨-, hnull⟩ := Fields.given?_eq_some_iff.mp holder
  obtain ⟨holderKey, hcamelKey⟩ := schemaKeys_of_olderFields h
  refine parsed?_eq_of_camel h (fun key hkey hne => ?_) ?_ ?_
  · rw [Fields.get?_insert, if_neg hne, Fields.get?_remove, if_neg hkey]
  · rw [attribute?_camel h, attribute?_camel h, hcamel, holder, Fields.given?, Fields.get?_insert,
      if_pos rfl, Option.filter_some, hnull]
    rfl
  · rw [further_insert hcamelKey, further_remove holderKey]

end One

/-! ## What is read -/

/-- The interface without the names under which its attributes were given. -/
def undeclared (i : Interface) : Interface := { i with declared := [] }

theorem attributesOf_eq_valid {i : Interface} (h : attributesOf given = .valid i) :
    Schema.optional Field.busType none optionalText given = .valid i.busType ∧
      Schema.optional Field.dataWidth none Width.read given = .valid i.dataWidth ∧
      Schema.optional Field.addrWidth none Width.read given = .valid i.addrWidth ∧
      Schema.optional Field.speed none optionalText given = .valid i.speed := by
  simp only [attributesOf, seq_eq_valid_iff, functor_map_eq_valid_iff] at h
  obtain ⟨_, _, ⟨_, _, ⟨_, _, ⟨_, _, ⟨_, _, ⟨_, _, ⟨_, _, ⟨_, _, ⟨_, _, ⟨_, _, ⟨_, -, rfl⟩, -, rfl⟩,
    hbus, rfl⟩, -, rfl⟩, hdata, rfl⟩, haddr, rfl⟩, -, rfl⟩, hspeed, rfl⟩, -, rfl⟩, -, rfl⟩, -, rfl⟩ :=
    h
  exact ⟨hbus, hdata, haddr, hspeed⟩

theorem attributesOf_of_ofFields {i : Interface} (h : ofFields given = .valid i) :
    attributesOf given = .valid i := by
  unfold ofFields at h
  split at h
  · cases h
  · obtain ⟨_, _, hconst, -, rfl⟩ := seq_eq_valid_iff.mp h
    obtain ⟨_, hattributes, rfl⟩ := functor_map_eq_valid_iff.mp hconst
    exact hattributes

theorem get?_of_spelled (h : spelled key a = .valid b) {other : String} (hne : other ≠ key) :
    b.get? other = a.get? other := by
  unfold spelled at h
  split at h
  · obtain ⟨text, -, rfl⟩ := functor_map_eq_valid_iff.mp h
    rw [Fields.get?_insert, if_neg hne]
  · cases h
    rfl

/-- The attributes are read from what the object gives for them. -/
theorem exists_attributesOf_of_parsed? {i : Interface} (h : parsed? given = some i) :
    ∃ a, attributesOf a = .valid i ∧
      ∀ key, key ≠ "id" → key ≠ "name" → key ∉ olderNames.map Prod.fst →
        a.get? key = attribute? given key := by
  rw [parsed?_eq, toOption_eq_some_iff, andThen_eq_valid_iff] at h
  obtain ⟨first, hfirst, h⟩ := h
  obtain ⟨second, hsecond, h⟩ := andThen_eq_valid_iff.mp h
  refine ⟨_, attributesOf_of_ofFields h, fun key hid hname hkey => ?_⟩
  rw [get?_idAsName_nameAsId hid hname, get?_of_spelled hsecond hname, get?_of_spelled hfirst hid,
    get?_renamed hkey]

theorem eq_of_optional {α : Type} {name : Name} {default x y : α} {read : Datum → Checked α}
    (hget : given.get? name.camel = some value) (hread : read value = .valid x)
    (h : Schema.optional name default read given = .valid y) : y = x :=
  valid.inj (h.symm.trans (optional_of_get? hget hread))

/-- A flag tells by the attribute that is read from it which flag it is. -/
theorem undeclared_ne {name : Name} {i j : Interface} (h : (older, name) ∈ olderFields)
    (hi : attributesOf a = .valid i) (hj : attributesOf b = .valid j)
    (ha : a.get? name.camel = some (.bool false)) (hb : b.get? name.camel = some (.bool true)) :
    undeclared i ≠ undeclared j := by
  intro heq
  have hwidth (flag : Bool) : Width.read (.bool flag) = .valid (some (.flag flag)) := rfl
  have hfalse : optionalText (.bool false) = .valid (some "False") := rfl
  have htrue : optionalText (.bool true) = .valid (some "True") := rfl
  obtain ⟨hbus, hdata, haddr, hspeed⟩ := attributesOf_eq_valid hi
  obtain ⟨hbus', hdata', haddr', hspeed'⟩ := attributesOf_eq_valid hj
  simp only [undeclared, mk.injEq] at heq
  simp only [olderFields, List.mem_cons, Prod.mk.injEq, List.not_mem_nil, or_false] at h
  rcases h with ⟨-, rfl⟩ | ⟨-, rfl⟩ | ⟨-, rfl⟩ | ⟨-, rfl⟩
  · rw [eq_of_optional ha (hwidth _) hdata, eq_of_optional hb (hwidth _) hdata'] at heq
    exact absurd heq (by simp)
  · rw [eq_of_optional ha (hwidth _) haddr, eq_of_optional hb (hwidth _) haddr'] at heq
    exact absurd heq (by simp)
  · rw [eq_of_optional ha hfalse hbus, eq_of_optional hb htrue hbus'] at heq
    exact absurd heq (by simp)
  · rw [eq_of_optional ha hfalse hspeed, eq_of_optional hb htrue hspeed'] at heq
    exact absurd heq (by simp)

section One

variable {name : Name} (h : (older, name) ∈ olderFields)

include h

theorem given?_insert_older (given : Fields) (value : Datum) :
    (given.insert (.text older) value).given? name.camel = given.given? name.camel := by
  rw [Fields.given?, Fields.given?, Fields.get?_insert, if_neg (older_ne_camel h).symm]

/-- What stands at the older name is read for the attribute if the camel-case spelling gives
nothing. -/
theorem exists_attributesOf_insert_older {i : Interface} (hcamel : given.given? name.camel = none)
    (hnull : value.isNull = false) (hi : parsed? (given.insert (.text older) value) = some i) :
    ∃ a, attributesOf a = .valid i ∧ a.get? name.camel = some value := by
  obtain ⟨a, ha, hget⟩ := exists_attributesOf_of_parsed? hi
  have hname : ∀ field ∈ olderFields, field.2.camel ≠ "id" ∧ field.2.camel ≠ "name" ∧
      field.2.camel ∉ olderNames.map Prod.fst := by decide
  obtain ⟨hid, hname, hkey⟩ := hname _ h
  have holder : (given.insert (.text older) value).given? older = some value :=
    Fields.given?_eq_some_iff.mpr ⟨by rw [Fields.get?_insert, if_pos rfl], hnull⟩
  refine ⟨a, ha, ?_⟩
  rw [hget _ hid hname hkey, attribute?_camel h, given?_insert_older h, hcamel, holder]
  rfl

/-- No value at the older name changes what is read exactly if the camel-case spelling has one. -/
theorem undeclared_parsed?_insert_iff {i : Interface} (hi : parsed? (given.remove older) = some i) :
    (∀ value, (parsed? (given.insert (.text older) value)).map undeclared = some (undeclared i)) ↔
      (given.given? name.camel).isSome := by
  constructor
  · intro hall
    by_contra hnone
    have hcamel : given.given? name.camel = none := by simpa using hnone
    -- both flags would have to be read as what is read without the older name
    have hread (flag : Bool) : ∃ a j, attributesOf a = .valid j ∧
        a.get? name.camel = some (.bool flag) ∧ undeclared j = undeclared i := by
      obtain ⟨j, hj, heq⟩ := Option.map_eq_some_iff.mp (hall (.bool flag))
      obtain ⟨a, ha, hget⟩ := exists_attributesOf_insert_older h hcamel rfl hj
      exact ⟨a, j, ha, hget, heq⟩
    obtain ⟨a, j, hj, ha, heq⟩ := hread false
    obtain ⟨b, k, hk, hb, heq'⟩ := hread true
    exact undeclared_ne h hj hk ha hb (heq.trans heq'.symm)
  · intro hcamel value
    rw [← given?_insert_older h given value] at hcamel
    rw [← parsed?_remove h (.inl hcamel), Fields.remove_insert, hi]
    rfl

/-- A value at the camel-case spelling of a current name wins over the older name: what stands there
changes nothing. A value at the other spelling does not win: where the camel-case spelling gives
nothing, a value at the older name is read as if it stood at it. -/
theorem parsed?_olderField (given : Fields) :
    ((given.given? name.camel).isSome ∨ given.given? older = none →
        parsed? (given.remove older) = parsed? given) ∧
      (∀ value, given.given? name.camel = none → given.given? older = some value →
        parsed? given = parsed? ((given.remove older).insert (.text name.camel) value)) ∧
      ∀ i, parsed? (given.remove older) = some i →
        ((∀ value, (parsed? (given.insert (.text older) value)).map undeclared =
            some (undeclared i)) ↔ (given.given? name.camel).isSome) :=
  ⟨parsed?_remove h, fun _ => parsed?_of_older h, fun _ => undeclared_parsed?_insert_iff h⟩

end One

/-- A data width at its plain spelling, beside another one at the older name. -/
def twoWidths : Fields := [("id", .text "p"), ("data_width", .int 64), ("width", .int 32)]

theorem parsed?_olderField_twoWidths : ("width", Field.dataWidth) ∈ olderFields ∧
    twoWidths.given? "dataWidth" = none ∧ twoWidths.given? "width" = some (.int 32) ∧
      parsed? twoWidths =
        parsed? [("id", .text "p"), ("data_width", .int 64), ("dataWidth", .int 32)] ∧
      ∃ i, parsed? (twoWidths.remove "width") = some i ∧ i.dataWidth = some (.number 64) ∧
        ¬ ∀ value, (parsed? (twoWidths.insert (.text "width") value)).map undeclared =
          some (undeclared i) := by
  have hfield : ("width", Field.dataWidth) ∈ olderFields := by decide
  obtain ⟨-, hcounts, hwins⟩ := parsed?_olderField hfield twoWidths
  have hwidth : (parsed? (twoWidths.remove "width")).map dataWidth = some (some (.number 64)) := by
    decide +kernel
  obtain ⟨i, hi, hdata⟩ := Option.map_eq_some_iff.mp hwidth
  refine ⟨hfield, rfl, rfl, hcounts _ rfl rfl, i, hi, hdata, fun hall => ?_⟩
  exact absurd ((hwins i hi).mp hall) (by decide)

/-- The older name wins over the plain spelling of the current one. -/
theorem width_wins_twoWidths :
    twoWidths.get? "dataWidth" = none ∧ twoWidths.given? "data_width" = some (.int 64) ∧
      (parsed? twoWidths).map dataWidth = some (some (.number 32)) ∧
      (parsed? (twoWidths.remove "width")).map dataWidth = some (some (.number 64)) :=
  ⟨rfl, rfl, by decide +kernel, by decide +kernel⟩

end Interface

end DesignRules
