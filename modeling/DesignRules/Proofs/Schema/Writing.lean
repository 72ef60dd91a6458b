import DesignRules.Proofs.Fields
import DesignRules.Proofs.Schema.Acceptance

/-! # Reading what was written

A field is read as the value that was written at its preferred spelling, and a list as the
items that were written one after the other.
-/

namespace DesignRules.Schema

open Checked

variable {α : Type} {name : Name} {read : Datum → Checked α} {given : Fields} {value : Datum}
  {a default : α}

theorem required_of_get? (h : given.get? name.camel = some value) (hread : read value = .valid a) :
    required name read given = .valid a := by
  simp [required, Name.find?, h, hread, within]

theorem optional_of_get? (h : given.get? name.camel = some value) (hread : read value = .valid a) :
    optional name default read given = .valid a := by
  simp [optional, Name.find?, h, hread, within]

theorem optional_of_absent (hcamel : given.get? name.camel = none)
    (hplain : given.get? name.plain = none) :
    optional name default read given = .valid default := by
  simp [optional, Name.find?, hcamel, hplain]

/-- An attribute that is written only if it is set is read as it was. -/
theorem optional_of_written {β : Type} {read : Datum → Checked (Option β)} {write : β → Datum}
    {set : Option β} (hcamel : given.get? name.camel = set.map write)
    (hplain : set = none → given.get? name.plain = none)
    (hread : ∀ b, read (write b) = .valid (some b)) :
    optional name none read given = .valid set := by
  cases set with
  | none => exact optional_of_absent hcamel (hplain rfl)
  | some b => exact optional_of_get? hcamel (hread b)

section Lists

variable {β : Type} {write : β → Datum} {f : β → α} {items : List β}

theorem eachFrom_map (h : ∀ b ∈ items, read (write b) = .valid (f b)) (i : Nat) :
    eachFrom read i (items.map write) = .valid (items.map f) := by
  induction items generalizing i with
  | nil => rfl
  | cons b items ih =>
    obtain ⟨hb, hitems⟩ := List.forall_mem_cons.mp h
    rw [List.map_cons, eachFrom, hb, ih hitems]
    rfl

theorem list_map (h : ∀ b ∈ items, read (write b) = .valid (f b)) :
    list read (.list (items.map write)) = .valid (items.map f) :=
  eachFrom_map h 0

end Lists

theorem list_written {write : α → Datum} {items : List α}
    (h : ∀ a ∈ items, read (write a) = .valid a) :
    list read (.list (items.map write)) = .valid items := by
  have hmap : list read (.list (items.map write)) = .valid (items.map id) := list_map h
  rwa [List.map_id] at hmap

theorem list_texts (items : List String) : list text (.texts items) = .valid items :=
  list_written fun _ _ => rfl

end DesignRules.Schema
