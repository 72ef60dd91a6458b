import DesignRules.Diagram.Reading
import DesignRules.Proofs.Interface.Spellings

/-! # Diagrams with other spellings of widths

Nodes, components and diagrams are read alike whichever spellings of integers stand at the widths of
their interfaces, at the top level of a node as well as in the object at `data`.
-/

namespace DesignRules

open Schema Schema.Checked Fields

/-- At the interfaces stand the same ones with widths in other spellings. -/
def InterfacesRespelt (key : String) (v w : Datum) : Prop :=
  key = "interfaces" ∧ v.ItemsVary Interface.Respelt w

/-- The same value, or a component with widths in other spellings. -/
def Component.Respelt : Datum → Datum → Prop := Datum.ObjectVaries InterfacesRespelt

/-- Interfaces stand at the top level of a node or in the object at `data`. -/
def Node.Respells (key : String) (v w : Datum) : Prop :=
  InterfacesRespelt key v w ∨ key = "data" ∧ v.ObjectVaries InterfacesRespelt w

/-- The same value, or a node with widths in other spellings. -/
def Node.Respelt : Datum → Datum → Prop := Datum.ObjectVaries Node.Respells

/-- At the nodes stand the same ones with widths in other spellings. -/
def Diagram.Respells (key : String) (v w : Datum) : Prop :=
  key = "nodes" ∧ v.ItemsVary Node.Respelt w

/-- The same value, or a diagram with widths in other spellings. -/
def Diagram.Respelt : Datum → Datum → Prop := Datum.ObjectVaries Diagram.Respells

variable {a b : Fields} {key : String} {v w : Datum} {α : Type}

theorem list_interfaces_congr (h : v.ItemsVary Interface.Respelt w) :
    list Interface.read v = list Interface.read w :=
  list_congr h fun _ _ => Interface.read_of_respelt

/-! ## Components -/

namespace Component

theorem untouched {key : String} (h : key ≠ "interfaces") :
    Untouched InterfacesRespelt (.same key) :=
  fun _ _ => ⟨fun hkey => h hkey.1, fun hkey => h hkey.1⟩

theorem ofFields_congr (h : a.Vary InterfacesRespelt b) : ofFields a = ofFields b := by
  have hinterfaces : optional (.same "interfaces") [] (list Interface.read) a =
      optional (.same "interfaces") [] (list Interface.read) b :=
    optional_congr h fun _ _ _ _ hv => list_interfaces_congr hv.2
  unfold ofFields
  rw [required_of_untouched (.same "id") text h (untouched (by decide)),
    optional_of_untouched (.same "name") "" text h (untouched (by decide)), hinterfaces]

theorem read_of_respelt (h : Respelt v w) : read v = read w :=
  fields_andThen_congr h fun _ _ => ofFields_congr

theorem readEach_of_respelt {xs ys : List Datum} (h : List.Forall₂ Respelt xs ys) :
    readEach xs = readEach ys := by
  unfold readEach
  induction h with
  | nil => rfl
  | cons hitem _ ih => rw [inTurn, inTurn, read_of_respelt hitem, ih]

end Component

/-! ## Nodes -/

namespace Node

/-- Whether or not the interfaces of both nodes stand in an object at `data`. -/
theorem flattened_vary (h : a.Vary Respells b) : (flattened a).Vary Respells (flattened b) := by
  have hinner {x y : Fields} (hxy : x.Vary InterfacesRespelt y) :
      (a.remove "data" ++ x.filter fun field => !(a.remove "data").has field.1).Vary Respells
        (b.remove "data" ++ y.filter fun field => !(b.remove "data").has field.1) := by
    refine (h.remove "data").append ?_
    simp only [(h.remove "data").has]
    exact (hxy.filter_key fun key => !(b.remove "data").has key).imp fun _ _ _ => .inl
  have hdata := h.get? "data"
  unfold flattened
  generalize a.get? "data" = x, b.get? "data" = y at hdata
  cases hdata with
  | none => exact h
  | @some v w hvalue =>
    -- what stands at `data` and is no object is the same in both nodes and stays there
    obtain hsame | hobject : v = w ∨ v.ObjectVaries InterfacesRespelt w := by
      rcases hvalue with hsame | ⟨hkey, -⟩ | ⟨-, hobject⟩
      · exact .inl hsame
      · exact absurd hkey (by decide)
      · exact .inr hobject
    · subst hsame
      cases v with
      | object x => exact hinner (.refl x)
      | scalar | list => exact h
    · cases hobject with
      | object hxy => exact hinner hxy
      | same =>
        cases v with
        | object x => exact hinner (.refl x)
        | scalar | list => exact h

theorem readInterfaces_congr (h : v.ItemsVary Interface.Respelt w) :
    readInterfaces v = readInterfaces w := by
  cases h with
  | same => rfl
  | list h => exact list_interfaces_congr (.list h)

theorem untouched {name : Name}
    (h : name.camel ∉ ["interfaces", "data"] ∧ name.plain ∉ ["interfaces", "data"]) :
    Untouched Respells name := by
  have hkey {key : String} (hnone : key ∉ ["interfaces", "data"]) (v w : Datum) :
      ¬ Respells key v w := by
    rintro (⟨rfl, -⟩ | ⟨rfl, -⟩) <;> simp at hnone
  exact fun v w => ⟨hkey h.1 v w, hkey h.2 v w⟩

theorem ofFields_congr (h : a.Vary Respells b) : ofFields a = ofFields b := by
  have hinterfaces : optional (.same "interfaces") [] readInterfaces a =
      optional (.same "interfaces") [] readInterfaces b := by
    refine optional_congr h fun key hkey v w hv => ?_
    rcases hv with ⟨-, hitems⟩ | ⟨rfl, -⟩
    · exact readInterfaces_congr hitems
    · exact absurd hkey (by decide)
  unfold ofFields
  rw [required_of_untouched (.same "id") textLike h (untouched (by decide)),
    optional_of_untouched (.same "label") "" readLabel h (untouched (by decide)),
    optional_of_untouched ⟨"modelType", "model_type"⟩ none optionalText h (untouched (by decide)),
    optional_of_untouched (.same "category") none optionalText h (untouched (by decide)),
    optional_of_untouched ⟨"componentId", "component_id"⟩ none optionalText h
      (untouched (by decide)),
    optional_of_untouched ⟨"targetAddrBase", "target_addr_base"⟩ none addressText h
      (untouched (by decide)),
    optional_of_untouched ⟨"targetAddrSpace", "target_addr_space"⟩ none addressText h
      (untouched (by decide)),
    optional_of_untouched ⟨"addressMapping", "address_mapping"⟩ none
      (nullable AddressMapping.read) h (untouched (by decide)), hinterfaces]

theorem read_of_respelt (h : Respelt v w) : read v = read w :=
  fields_andThen_congr h fun _ _ hvary => ofFields_congr (flattened_vary hvary)

end Node

/-! ## Diagrams -/

namespace Diagram

theorem isList_congr (h : v.ItemsVary Node.Respelt w) : isList (some v) = isList (some w) := by
  cases h <;> rfl

theorem isList_get?_congr (h : a.Vary Respells b) (key : String) :
    isList (a.get? key) = isList (b.get? key) := by
  have hvalue := h.get? key
  generalize a.get? key = x, b.get? key = y at hvalue
  cases hvalue with
  | none => rfl
  | some hvalue =>
    rcases hvalue with rfl | ⟨-, hitems⟩
    · rfl
    · exact isList_congr hitems

theorem ofFields_congr (h : a.Vary Respells b) : ofFields a = ofFields b := by
  have hnodes : required (.same "nodes") (list Node.read) a =
      required (.same "nodes") (list Node.read) b :=
    required_congr h fun _ _ _ _ hv => list_congr hv.2 fun _ _ => Node.read_of_respelt
  have hedges : Untouched Respells (.same "edges") := fun _ _ =>
    ⟨fun hv => absurd hv.1 (by decide), fun hv => absurd hv.1 (by decide)⟩
  unfold ofFields
  rw [hnodes, required_of_untouched (.same "edges") (list Connection.read) h hedges]

theorem read_of_respelt (h : Respelt v w) : read v = read w := by
  cases h with
  | same => rfl
  | object hvary =>
    unfold read
    simp only [isList_get?_congr hvary, ofFields_congr hvary]

end Diagram

end DesignRules
