import DesignRules.Proofs.Diagram.Format
import DesignRules.Proofs.Schema.Writing
import DesignRules.Resolution.Basic

/-! # Components by identifier

A node names its component by any scalar, which is read as a text. An entry of the library has to
give that text as its identifier: a flag or a number is rejected there.
-/

namespace DesignRules

open Schema Schema.Checked

namespace Node

/-- The name of the component that a node refers to. -/
def componentField : Name := ⟨"componentId", "component_id"⟩

theorem componentId_of_read {given : Fields} {n : Node} {s : Scalar} {t : String}
    (h : Node.read (.object given) = .valid n)
    (hfield : componentField.valueIn (attribute? given) = some (.scalar s)) (hnull : s ≠ .null)
    (ht : (Datum.scalar s).display? = some t) : n.componentId = some t := by
  have hofFields : ofFields (flattened given) = .valid n := h
  simp only [ofFields, seq_eq_valid_iff, functor_map_eq_valid_iff] at hofFields
  obtain ⟨_, _, ⟨_, _, ⟨_, _, ⟨_, _, ⟨_, _, ⟨_, _, ⟨_, _, ⟨_, _, ⟨_, -, rfl⟩, -, rfl⟩, -, rfl⟩, -,
    rfl⟩, hcomponent, rfl⟩, -, rfl⟩, -, rfl⟩, -, rfl⟩, -, rfl⟩ := hofFields
  rw [← valueIn_flattened (by decide)] at hfield
  have hread := read_of_optional hfield hcomponent
  rw [optionalText_of_display? hnull ht] at hread
  exact (valid.inj hread).symm

end Node

namespace Component

/-- An entry of a library with an identifier and interfaces. -/
def entry (id : Scalar) (items : List Datum) : Datum :=
  .object [("id", .scalar id), ("interfaces", .list items)]

variable {items : List Datum} {is : List Interface} {id : Scalar} {s t : String}

theorem read_entry (h : list Interface.read (.list items) = .valid is) (id : Scalar) :
    read (entry id items) =
      map (fun id => ⟨id, "", is⟩) (within (.key "id") (text (.scalar id))) := by
  have hinterfaces : Schema.optional (.same "interfaces") [] (list Interface.read)
      [("id", .scalar id), ("interfaces", .list items)] = .valid is :=
    optional_of_get? rfl h
  change ofFields [("id", .scalar id), ("interfaces", .list items)] = _
  rw [ofFields, hinterfaces]
  cases id <;> rfl

theorem read_entry_text (h : list Interface.read (.list items) = .valid is) (s : String) :
    read (entry (.text s) items) = .valid ⟨s, "", is⟩ :=
  read_entry h (.text s)

theorem read_entry_of_text?_eq_none (h : list Interface.read (.list items) = .valid is)
    (hid : id.text? = none) : read (entry id items) = .invalid [⟨.notText, [.key "id"]⟩] := by
  rw [read_entry h]
  cases id with
  | text s => cases hid
  | _ => rfl

/-- A node without interfaces of its own has those of the component that it refers to. -/
theorem interfaces_of_componentId {d : Diagram} {n : Node} (hn : d.node? n.id = some n)
    (hinterfaces : n.interfaces = []) (hid : n.componentId = some s) (hs : s ≠ "")
    (name : String) (is : List Interface) :
    Design.interfaces ⟨d, [⟨s, name, is⟩]⟩ n.id = is := by
  have hfilled : filled n.componentId = some s := by simp [filled, hid, hs]
  simp [Design.interfaces, hn, Design.nodeInterfaces, hinterfaces, Design.libraryInterfaces,
    hfilled, Design.component?]

/-- An entry whose identifier is the text of a scalar is accepted, and a node that refers to the
scalar has its interfaces. An entry whose identifier is the scalar itself is accepted exactly if
that is a text. -/
theorem entry_resolves (hnull : id ≠ .null) (hid : (Datum.scalar id).display? = some s)
    (hs : s ≠ "") (hitems : list Interface.read (.list items) = .valid is) :
    ((read (entry id items)).IsValid ↔ id = .text s) ∧
      (id ≠ .text s → read (entry id items) = .invalid [⟨.notText, [.key "id"]⟩]) ∧
      read (entry (.text s) items) = .valid ⟨s, "", is⟩ ∧
      ∀ (d : Diagram) (given : Fields) (n : Node), Node.read (.object given) = .valid n →
        Node.componentField.valueIn (Node.attribute? given) = some (.scalar id) →
        n.interfaces = [] → d.node? n.id = some n →
          Design.interfaces ⟨d, [⟨s, "", is⟩]⟩ n.id = is := by
  have hinvalid (hne : id ≠ .text s) :
      read (entry id items) = .invalid [⟨.notText, [.key "id"]⟩] := by
    apply read_entry_of_text?_eq_none hitems
    cases id with
    | text t =>
      obtain rfl : t = s := Option.some.inj hid
      exact absurd rfl hne
    | _ => rfl
  refine ⟨⟨fun hvalid => ?_, ?_⟩, hinvalid, read_entry_text hitems s, ?_⟩
  · by_contra hne
    rw [hinvalid hne] at hvalid
    exact not_isValid_invalid _ hvalid
  · rintro rfl
    exact ⟨_, read_entry_text hitems s⟩
  · intro d given n hread hfield hinterfaces hn
    exact interfaces_of_componentId hn hinterfaces
      (Node.componentId_of_read hread hfield hnull hid) hs "" is

/-- An interface with nothing but an identifier. -/
def barePort : Datum := .object [("id", .text "p")]

/-- A node that refers to a component by a number. -/
def numbered : Fields := [("id", .text "cpu"), ("data", .object [("componentId", .int 5)])]

theorem entry_resolves_five : ∃ is n, list Interface.read (.list [barePort]) = .valid is ∧
    is.length = 1 ∧ Node.read (.object numbered) = .valid n ∧ n.interfaces = [] ∧
      Design.interfaces ⟨⟨[n], []⟩, [⟨"5", "", is⟩]⟩ n.id = is ∧
      ¬ (read (entry (.int 5) [barePort])).IsValid := by
  have hport : map List.length (list Interface.read (.list [barePort])) = .valid 1 := by
    decide +kernel
  have hnode : map Node.interfaces (Node.read (.object numbered)) = .valid [] := by decide +kernel
  have hdisplay : (Datum.scalar (.int 5)).display? = some "5" := by decide +kernel
  obtain ⟨is, his, hlength⟩ := functor_map_eq_valid_iff.mp hport
  obtain ⟨n, hn, hinterfaces⟩ := functor_map_eq_valid_iff.mp hnode
  obtain ⟨hvalid, -, -, hresolves⟩ := entry_resolves (by decide) hdisplay (by decide) his
  have hfound : Diagram.node? ⟨[n], []⟩ n.id = some n := List.find?_cons_of_pos (beq_self_eq_true _)
  refine ⟨is, n, his, hlength, hn, hinterfaces, ?_, fun h => ?_⟩
  · exact hresolves _ _ _ hn rfl hinterfaces hfound
  · cases hvalid.mp h

/-- A number is read as a text where a node refers to it, and rejected where a component has it. -/
theorem not_read_entry_five :
    map Node.componentId (Node.read (.object numbered)) = .valid (some "5") ∧
      (list Interface.read (.list [barePort])).IsValid ∧
      read (entry (.int 5) [barePort]) = .invalid [⟨.notText, [.key "id"]⟩] :=
  ⟨by decide +kernel, ⟨_, rfl⟩, by decide +kernel⟩

end Component

end DesignRules
