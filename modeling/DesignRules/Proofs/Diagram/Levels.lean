import DesignRules.Proofs.Diagram.Format

/-! # Attributes at two levels

A node gives an attribute at its top level or in the object at `data`. Which level counts is decided
for each spelling on its own, and only then which spelling counts. So the top level wins exactly
where it has the camel-case spelling or the object at `data` has not.
-/

namespace DesignRules.Node

open Schema Schema.Checked

/-- The attributes that may be given at either level, as texts or as an address mapping. -/
def levelFields : List Name :=
  [⟨"modelType", "model_type"⟩, .same "category", ⟨"componentId", "component_id"⟩,
   ⟨"targetAddrBase", "target_addr_base"⟩, ⟨"targetAddrSpace", "target_addr_space"⟩,
   ⟨"addressMapping", "address_mapping"⟩]

/-- All attributes of a node. -/
def fieldNames : List Name := .same "id" :: .same "label" :: .same "interfaces" :: levelFields

/-- The node with another object at `data`. -/
def withData (given inner : Fields) : Fields := given.insert (.text "data") (.object inner)

/-- The node without any spelling of an attribute in the object at `data`. -/
def withoutNested (name : Name) (given inner : Fields) : Fields :=
  withData given ((inner.remove name.camel).remove name.plain)

variable {a b given inner : Fields} {name : Name} {key : String} {value : Datum}

/-! ## What is read -/

/-- Only what is found for the attributes matters. -/
theorem read_congr (h : ∀ name ∈ fieldNames, name.find? (flattened a) = name.find? (flattened b)) :
    read (.object a) = read (.object b) := by
  simp only [fieldNames, levelFields, List.forall_mem_cons, List.not_mem_nil, false_imp_iff,
    implies_true, and_true] at h
  obtain ⟨hid, hlabel, hinterfaces, hmodel, hcategory, hcomponent, hbase, hspace, hmapping⟩ := h
  change ofFields (flattened a) = ofFields (flattened b)
  simp only [ofFields, required, Schema.optional, hid, hlabel, hinterfaces, hmodel, hcategory,
    hcomponent, hbase, hspace, hmapping]

theorem attribute?_of_data (h : given.get? "data" = some (.object inner)) (key : String) :
    attribute? given key = (given.get? key).or (inner.get? key) := by
  rw [attribute?, h]
  rfl

theorem attribute?_withData (given inner : Fields) (hkey : key ≠ "data") :
    attribute? (withData given inner) key = (given.get? key).or (inner.get? key) := by
  rw [attribute?, withData, Fields.get?_insert, Fields.get?_insert, if_neg hkey, if_pos rfl]
  rfl

theorem get?_removed (hne : key ≠ name.camel) (hne' : key ≠ name.plain) :
    ((inner.remove name.camel).remove name.plain).get? key = inner.get? key := by
  rw [Fields.get?_remove, if_neg hne', Fields.get?_remove, if_neg hne]

theorem get?_removed_camel (name : Name) (inner : Fields) :
    ((inner.remove name.camel).remove name.plain).get? name.camel = none := by
  rw [Fields.get?_remove, Fields.get?_remove, if_pos rfl, ite_self]

theorem find?_flattened (hname : name.camel ≠ "data" ∧ name.plain ≠ "data") :
    name.find? (flattened given) =
      ((attribute? given name.camel).map fun value => (name.camel, value)).or
        ((attribute? given name.plain).map fun value => (name.plain, value)) := by
  rw [Name.find?, get?_flattened hname.1, get?_flattened hname.2]
  cases attribute? given name.camel <;> rfl

theorem find?_flattened_of_camel (hname : name.camel ≠ "data" ∧ name.plain ≠ "data")
    (h : attribute? given name.camel = some value) :
    name.find? (flattened given) = some (name.camel, value) := by
  rw [find?_flattened hname, h]
  rfl

theorem find?_flattened_of_plain (hname : name.camel ≠ "data" ∧ name.plain ≠ "data")
    (hcamel : attribute? given name.camel = none)
    (hplain : attribute? given name.plain = some value) :
    name.find? (flattened given) = some (name.plain, value) := by
  rw [find?_flattened hname, hcamel, hplain]
  rfl

section Attribute

variable (hname : name ∈ levelFields)

include hname

theorem ne_data : name.camel ≠ "data" ∧ name.plain ≠ "data" := by
  have hne : ∀ name ∈ levelFields, name.camel ≠ "data" ∧ name.plain ≠ "data" := by decide
  exact hne name hname

/-- Nodes that differ at one attribute only are read alike if the same is found for it. -/
theorem read_congr_of_attribute
    (hsame : ∀ key, key ≠ "data" → key ≠ name.camel → key ≠ name.plain →
      attribute? a key = attribute? b key)
    (hfind : name.find? (flattened a) = name.find? (flattened b)) :
    read (.object a) = read (.object b) := by
  have hdisjoint : ∀ name ∈ levelFields, ∀ other ∈ fieldNames, other = name ∨
      (∀ key ∈ [other.camel, other.plain], key ≠ "data" ∧ key ≠ name.camel ∧ key ≠ name.plain) := by
    decide
  apply read_congr
  intro other hother
  rcases hdisjoint name hname other hother with rfl | hkeys
  · exact hfind
  · obtain ⟨⟨hcamel, hcamel', hcamel''⟩, ⟨hplain, hplain', hplain''⟩, -⟩ := by
      simpa only [List.forall_mem_cons] using hkeys
    rw [find?_flattened ⟨hcamel, hplain⟩, find?_flattened ⟨hcamel, hplain⟩,
      hsame _ hcamel hcamel' hcamel'', hsame _ hplain hplain' hplain'']

section Nested

variable (hdata : given.get? "data" = some (.object inner))

include hdata

/-- What stands in the object at `data` for an attribute does not matter where the top level has the
camel-case spelling. -/
theorem read_withData_of_camel {more : Fields} (hcamel : (given.get? name.camel).isSome)
    (hmore : ∀ key, key ≠ name.camel → key ≠ name.plain → more.get? key = inner.get? key) :
    read (.object (withData given more)) = read (.object given) := by
  obtain ⟨value, hvalue⟩ := Option.isSome_iff_exists.mp hcamel
  apply read_congr_of_attribute hname
  · intro key hkey hne hne'
    rw [attribute?_withData given more hkey, attribute?_of_data hdata, hmore key hne hne']
  · have htop : attribute? (withData given more) name.camel = some value := by
      rw [attribute?_withData given more (ne_data hname).1, hvalue, Option.some_or]
    have hgiven : attribute? given name.camel = some value := by
      rw [attribute?_of_data hdata, hvalue, Option.some_or]
    rw [find?_flattened_of_camel (ne_data hname) htop,
      find?_flattened_of_camel (ne_data hname) hgiven]

/-- Nor does it matter where the object at `data` has not got the camel-case spelling and the top
level has the other one. -/
theorem read_withoutNested_of_plain (hplain : (given.get? name.plain).isSome)
    (hinner : inner.get? name.camel = none) :
    read (.object (withoutNested name given inner)) = read (.object given) := by
  obtain ⟨value, hvalue⟩ := Option.isSome_iff_exists.mp hplain
  cases hcamel : given.get? name.camel with
  | some _ =>
    apply read_withData_of_camel hname hdata (Option.isSome_iff_exists.mpr ⟨_, hcamel⟩)
    exact fun key => get?_removed
  | none =>
    apply read_congr_of_attribute hname
    · intro key hkey hne hne'
      rw [withoutNested, attribute?_withData _ _ hkey, attribute?_of_data hdata,
        get?_removed hne hne']
    · have hwithout : attribute? (withoutNested name given inner) name.camel = none := by
        rw [withoutNested, attribute?_withData _ _ (ne_data hname).1, hcamel, get?_removed_camel]
        rfl
      have hwithout' : attribute? (withoutNested name given inner) name.plain = some value := by
        rw [withoutNested, attribute?_withData _ _ (ne_data hname).2, hvalue, Option.some_or]
      have hgiven : attribute? given name.camel = none := by
        rw [attribute?_of_data hdata, hcamel, hinner]
        rfl
      have hgiven' : attribute? given name.plain = some value := by
        rw [attribute?_of_data hdata, hvalue, Option.some_or]
      rw [find?_flattened_of_plain (ne_data hname) hwithout hwithout',
        find?_flattened_of_plain (ne_data hname) hgiven hgiven']

/-- A camel-case spelling in the object at `data` counts as one at the top level, where that has
none. -/
theorem read_eq_of_nested (hcamel : given.get? name.camel = none)
    (hinner : inner.get? name.camel = some value) :
    read (.object given) = read (.object (given.insert (.text name.camel) value)) := by
  have hdata' : (given.insert (.text name.camel) value).get? "data" = some (.object inner) := by
    rw [Fields.get?_insert, if_neg (ne_data hname).1.symm, hdata]
  apply read_congr_of_attribute hname
  · intro key hkey hne hne'
    rw [attribute?_of_data hdata, attribute?_of_data hdata', Fields.get?_insert, if_neg hne]
  · have hgiven : attribute? given name.camel = some value := by
      rw [attribute?_of_data hdata, hcamel, hinner]
      rfl
    have htop : attribute? (given.insert (.text name.camel) value) name.camel = some value := by
      rw [attribute?_of_data hdata', Fields.get?_insert, if_pos rfl, Option.some_or]
    rw [find?_flattened_of_camel (ne_data hname) hgiven,
      find?_flattened_of_camel (ne_data hname) htop]

end Nested

/-- A list is no value of the attribute. -/
theorem not_isValid_read_of_list (h : attribute? given name.camel = some (.list [])) :
    ¬ (read (.object given)).IsValid := by
  have hvalue : name.valueIn (flattened given).get? = some (.list []) := by
    rw [Name.valueIn_get?, find?_flattened_of_camel (ne_data hname) h]
    rfl
  have htext : ¬ (optionalText (.list [])).IsValid := not_isValid_fail _
  have haddress : ¬ (addressText (.list [])).IsValid := not_isValid_fail _
  have hmapping : ¬ (nullable AddressMapping.read (.list [])).IsValid := not_isValid_fail _
  change ¬ (ofFields (flattened given)).IsValid
  simp only [ofFields, isValid_seq_iff, isValid_functor_map_iff, isValid_optional_iff]
  simp only [levelFields, List.mem_cons, List.not_mem_nil, or_false] at hname
  rcases hname with rfl | rfl | rfl | rfl | rfl | rfl <;> simp [hvalue, htext, haddress, hmapping]

/-- A value at the top level wins over the object at `data`, so that nothing is lost without the
attribute there, if it stands at the camel-case spelling or if nothing stands at that spelling in
`data`. Otherwise the value in `data` is read as if it stood at the top level. Nothing that stands
in `data` changes the node exactly if the top level has the camel-case spelling. -/
theorem read_levels (hdata : given.get? "data" = some (.object inner))
    (hgiven : (given.given? name.camel).isSome ∨ (given.given? name.plain).isSome) :
    ((given.get? name.camel).isSome ∨ inner.get? name.camel = none →
        read (.object (withoutNested name given inner)) = read (.object given)) ∧
      (∀ value, given.get? name.camel = none → inner.get? name.camel = some value →
        read (.object given) = read (.object (given.insert (.text name.camel) value))) ∧
      ((read (.object (withoutNested name given inner))).IsValid →
        ((∀ value, read (.object (withData given (inner.insert (.text name.camel) value))) =
            read (.object (withoutNested name given inner))) ↔
          (given.get? name.camel).isSome)) := by
  have hwithout (hcamel : (given.get? name.camel).isSome) :
      read (.object (withoutNested name given inner)) = read (.object given) :=
    read_withData_of_camel hname hdata hcamel fun _ => get?_removed
  refine ⟨?_, fun value => read_eq_of_nested hname hdata, fun hvalid => ⟨fun hall => ?_, ?_⟩⟩
  · rintro (hcamel | hinner)
    · exact hwithout hcamel
    · rcases hgiven with hcamel | hplain
      · exact hwithout (Fields.isSome_get?_of_given? hcamel)
      · exact read_withoutNested_of_plain hname hdata (Fields.isSome_get?_of_given? hplain) hinner
  · by_contra hcamel
    -- a list would be read for the attribute, which is none
    have hlist : attribute? (withData given (inner.insert (.text name.camel) (.list [])))
        name.camel = some (.list []) := by
      rw [attribute?_withData _ _ (ne_data hname).1, Option.not_isSome_iff_eq_none.mp hcamel,
        Fields.get?_insert, if_pos rfl]
      rfl
    exact not_isValid_read_of_list hname hlist (hall (.list []) ▸ hvalid)
  · intro hcamel value
    rw [hwithout hcamel]
    apply read_withData_of_camel hname hdata hcamel
    intro key hne _
    rw [Fields.get?_insert, if_neg hne]

end Attribute

/-- A model type at the plain spelling, and another one in camel case in the object at `data`. -/
def spelledTwice : Fields :=
  [("id", .text "n"), ("model_type", .text "Memory"),
   ("data", .object [("modelType", .text "CPU"), ("label", .text "DDR")])]

theorem read_levels_spelledTwice : ⟨"modelType", "model_type"⟩ ∈ levelFields ∧
    spelledTwice.get? "data" = some (.object [("modelType", .text "CPU"), ("label", .text "DDR")]) ∧
      (spelledTwice.given? "model_type").isSome ∧
      read (.object spelledTwice) =
        read (.object (spelledTwice.insert (.text "modelType") (.text "CPU"))) := by
  have hfield : ⟨"modelType", "model_type"⟩ ∈ levelFields := by decide
  have hdata : spelledTwice.get? "data" =
      some (.object [("modelType", .text "CPU"), ("label", .text "DDR")]) := rfl
  have hread := read_levels hfield hdata (.inr rfl)
  exact ⟨hfield, rfl, rfl, hread.2.1 _ rfl rfl⟩

/-- The value in the object at `data` wins over the one at the top level, which is read without
it. -/
theorem nested_wins_spelledTwice : spelledTwice.given? "model_type" = some (.text "Memory") ∧
    (read (.object spelledTwice)).map modelType = .valid (some "CPU") ∧
      (read (.object (withoutNested ⟨"modelType", "model_type"⟩ spelledTwice
        [("modelType", .text "CPU"), ("label", .text "DDR")]))).map modelType =
          .valid (some "Memory") :=
  ⟨rfl, by decide +kernel, by decide +kernel⟩

end DesignRules.Node
