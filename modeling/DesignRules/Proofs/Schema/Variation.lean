import DesignRules.Proofs.Fields
import DesignRules.Schema.Field
import Mathlib.Data.List.Forall2

/-! # Variations of data

Two objects with the same keys may have other values at some of them. A schema that reads the values
there alike, or does not look at them, reads the two objects alike, with the same issues.
-/

namespace DesignRules

/-- The same field, or one with another value that is allowed at its key. -/
inductive FieldVaries (allowed : String → Datum → Datum → Prop) :
    Scalar × Datum → Scalar × Datum → Prop
  | same (field : Scalar × Datum) : FieldVaries allowed field field
  | other {key : String} {v w : Datum} (h : allowed key v w) :
      FieldVaries allowed (.text key, v) (.text key, w)

namespace Fields

/-- The keys are the same, and so are the values where no others are allowed. -/
def Vary (allowed : String → Datum → Datum → Prop) : Fields → Fields → Prop :=
  List.Forall₂ (FieldVaries allowed)

/-- The same value, or one that is allowed at the key. -/
def Admits (allowed : String → Datum → Datum → Prop) (key : String) (v w : Datum) : Prop :=
  v = w ∨ allowed key v w

end Fields

namespace Datum

/-- The same value, or an object with other values that are allowed at their keys. -/
inductive ObjectVaries (allowed : String → Datum → Datum → Prop) : Datum → Datum → Prop
  | same (value : Datum) : ObjectVaries allowed value value
  | object {a b : Fields} (h : a.Vary allowed b) : ObjectVaries allowed (.object a) (.object b)

/-- The same value, or a list with other items that are allowed. -/
inductive ItemsVary (allowed : Datum → Datum → Prop) : Datum → Datum → Prop
  | same (value : Datum) : ItemsVary allowed value value
  | list {xs ys : List Datum} (h : List.Forall₂ allowed xs ys) :
      ItemsVary allowed (.list xs) (.list ys)

end Datum

namespace Fields.Vary

variable {allowed more : String → Datum → Datum → Prop} {a b c d : Fields} {key : String}
  {v w : Datum}

theorem refl (a : Fields) : Vary allowed a a := List.forall₂_same.mpr fun field _ => .same field

theorem imp (h : Vary allowed a b) (hmore : ∀ key v w, allowed key v w → more key v w) :
    Vary more a b :=
  List.Forall₂.imp (fun _ _ hfield => by
    cases hfield with
    | same => exact .same _
    | other hallowed => exact .other (hmore _ _ _ hallowed)) h

/-! ## Keys -/

theorem map_fst (h : Vary allowed a b) : a.map (·.1) = b.map (·.1) := by
  induction h with
  | nil => rfl
  | cons hfield _ ih => cases hfield <;> simp [ih]

theorem any_key (h : Vary allowed a b) (p : Scalar → Bool) :
    a.any (fun field => p field.1) = b.any fun field => p field.1 := by
  have hkeys (fields : Fields) : fields.any (fun field => p field.1) =
      (fields.map (·.1)).any p := List.any_map.symm
  rw [hkeys, hkeys, h.map_fst]

theorem has (h : Vary allowed a b) (key : Scalar) : a.has key = b.has key :=
  h.any_key fun k => k.same key

theorem filter_key (h : Vary allowed a b) (p : Scalar → Bool) :
    Vary allowed (a.filter fun field => p field.1) (b.filter fun field => p field.1) := by
  induction h with
  | nil => exact .nil
  | cons hfield _ ih =>
    rw [List.filter_cons, List.filter_cons]
    cases hfield with
    | same =>
      split
      · exact .cons (.same _) ih
      · exact ih
    | other hallowed =>
      dsimp only
      split
      · exact .cons (.other hallowed) ih
      · exact ih

theorem remove (h : Vary allowed a b) (key : String) : Vary allowed (a.remove key) (b.remove key) :=
  h.filter_key fun k => k != .text key

theorem append (h : Vary allowed a b) (hmore : Vary allowed c d) :
    Vary allowed (a ++ c) (b ++ d) :=
  List.rel_append h hmore

/-! ## Values -/

theorem get? (h : Vary allowed a b) (key : String) :
    Option.Rel (Admits allowed key) (a.get? key) (b.get? key) := by
  induction h with
  | nil => exact .none
  | cons hfield _ ih =>
    cases hfield with
    | same =>
      rw [get?_cons, get?_cons]
      split
      · exact .some (.inl rfl)
      · exact ih
    | other hallowed =>
      rw [get?_cons, get?_cons]
      split
      case isTrue hkey =>
        obtain rfl := Scalar.text.inj hkey
        exact .some (.inr hallowed)
      case isFalse => exact ih

/-- Where no other values are allowed they are the same. -/
theorem get?_eq (h : Vary allowed a b) (hkey : ∀ v w, ¬ allowed key v w) :
    a.get? key = b.get? key := by
  have hrel := h.get? key
  generalize a.get? key = x, b.get? key = y at hrel
  cases hrel with
  | none => rfl
  | some hvalue => rw [hvalue.resolve_right (hkey _ _)]

theorem given? (h : Vary allowed a b)
    (hnull : ∀ v w, allowed key v w → v.isNull = false ∧ w.isNull = false) :
    Option.Rel (Admits allowed key) (a.given? key) (b.given? key) := by
  have hrel := h.get? key
  unfold Fields.given?
  generalize a.get? key = x, b.get? key = y at hrel
  cases hrel with
  | none => exact .none
  | @some v w hvalue =>
    rcases hvalue with rfl | hallowed
    · by_cases hv : v.isNull
      · rw [Option.filter_some_neg (by simp [hv])]
        exact .none
      · rw [Option.filter_some_pos (by simp [hv])]
        exact .some (.inl rfl)
    · obtain ⟨hv, hw⟩ := hnull v w hallowed
      rw [Option.filter_some_pos (by simp [hv]), Option.filter_some_pos (by simp [hw])]
      exact .some (.inr hallowed)

theorem insert (h : Vary allowed a b) (hvalue : Admits allowed key v w) :
    Vary allowed (a.insert (.text key) v) (b.insert (.text key) w) := by
  have hfield : FieldVaries allowed (.text key, v) (.text key, w) := by
    rcases hvalue with rfl | hallowed
    · exact .same _
    · exact .other hallowed
  unfold Fields.insert
  rw [h.has]
  -- either both objects have the key already or it is new to both
  split
  · refine List.forall₂_map_left_iff.mpr (List.forall₂_map_right_iff.mpr (List.Forall₂.imp ?_ h))
    intro f g hfg
    have hkey : f.1 = g.1 := by cases hfg <;> rfl
    rw [hkey]
    split
    case isTrue hsame => exact Scalar.same_text_iff.mp hsame ▸ hfield
    case isFalse => exact hfg
  · exact h.append (.cons hfield .nil)

end Fields.Vary

/-! ## Reading -/

namespace Schema

open Checked

variable {allowed : String → Datum → Datum → Prop} {a b : Fields} {α : Type} {v w : Datum}

theorem find?_of_vary (h : a.Vary allowed b) (name : Name) :
    Option.Rel (fun f g => f.1 = g.1 ∧ (f.1 = name.camel ∨ f.1 = name.plain) ∧
      Fields.Admits allowed f.1 f.2 g.2) (name.find? a) (name.find? b) := by
  have hcamel := h.get? name.camel
  have hplain := h.get? name.plain
  unfold Name.find?
  generalize a.get? name.camel = x, b.get? name.camel = y at hcamel
  cases hcamel with
  | some hvalue => exact .some ⟨rfl, .inl rfl, hvalue⟩
  | none =>
    generalize a.get? name.plain = x, b.get? name.plain = y at hplain
    cases hplain with
    | some hvalue => exact .some ⟨rfl, .inr rfl, hvalue⟩
    | none => exact .none

/-- The spelling under which a field is given is the same. -/
theorem map_fst_find?_of_vary (h : a.Vary allowed b) (name : Name) :
    (name.find? a).map Prod.fst = (name.find? b).map Prod.fst := by
  have hfind := find?_of_vary h name
  generalize name.find? a = x, name.find? b = y at hfind
  cases hfind with
  | none => rfl
  | some hfield => simp [hfield.1]

/-- What is read at a field is the same if the values allowed at its spellings are read alike. -/
theorem map_find?_congr {read : Datum → Checked α} {name : Name} (h : a.Vary allowed b)
    (hread : ∀ key, key = name.camel ∨ key = name.plain →
      ∀ v w, allowed key v w → read v = read w) :
    (name.find? a).map (fun field => within (.key field.1) (read field.2)) =
      (name.find? b).map fun field => within (.key field.1) (read field.2) := by
  have hfind := find?_of_vary h name
  generalize name.find? a = x, name.find? b = y at hfind
  cases hfind with
  | none => rfl
  | @some f g hfield =>
    obtain ⟨key, v⟩ := f
    obtain ⟨_, w⟩ := g
    obtain ⟨rfl, hkey, rfl | hallowed⟩ := hfield
    · rfl
    · exact congrArg (fun c => some (within (.key key) c)) (hread key hkey v w hallowed)

theorem optional_congr {read : Datum → Checked α} {name : Name} {default : α}
    (h : a.Vary allowed b) (hread : ∀ key, key = name.camel ∨ key = name.plain →
      ∀ v w, allowed key v w → read v = read w) :
    optional name default read a = optional name default read b := by
  have heq (given : Fields) : optional name default read given =
      ((name.find? given).map fun field => within (.key field.1) (read field.2)).getD
        (.valid default) := by
    unfold optional
    cases name.find? given <;> rfl
  rw [heq, heq, map_find?_congr h hread]

theorem required_congr {read : Datum → Checked α} {name : Name}
    (h : a.Vary allowed b) (hread : ∀ key, key = name.camel ∨ key = name.plain →
      ∀ v w, allowed key v w → read v = read w) :
    required name read a = required name read b := by
  have heq (given : Fields) : required name read given =
      ((name.find? given).map fun field => within (.key field.1) (read field.2)).getD
        (within (.key name.camel) (fail .missing)) := by
    unfold required
    cases name.find? given <;> rfl
  rw [heq, heq, map_find?_congr h hread]

/-- No other values are allowed at either spelling of a field. -/
def Untouched (allowed : String → Datum → Datum → Prop) (name : Name) : Prop :=
  ∀ v w, ¬ allowed name.camel v w ∧ ¬ allowed name.plain v w

theorem Untouched.not_allowed {name : Name} (h : Untouched allowed name) {key : String}
    (hkey : key = name.camel ∨ key = name.plain) (v w : Datum) : ¬ allowed key v w := by
  rcases hkey with rfl | rfl
  · exact (h v w).1
  · exact (h v w).2

theorem optional_of_untouched (name : Name) (default : α) (read : Datum → Checked α)
    (h : a.Vary allowed b) (hname : Untouched allowed name) :
    optional name default read a = optional name default read b :=
  optional_congr h fun _ hkey v w hallowed => absurd hallowed (hname.not_allowed hkey v w)

theorem required_of_untouched (name : Name) (read : Datum → Checked α) (h : a.Vary allowed b)
    (hname : Untouched allowed name) : required name read a = required name read b :=
  required_congr h fun _ hkey v w hallowed => absurd hallowed (hname.not_allowed hkey v w)

theorem fields_andThen_congr {read : Fields → Checked α} (h : Datum.ObjectVaries allowed v w)
    (hread : ∀ a b : Fields, a.Vary allowed b → read a = read b) :
    (fields v).andThen read = (fields w).andThen read := by
  cases h with
  | same => rfl
  | object h => exact hread _ _ h

theorem eachFrom_congr {β : Type} {alike : β → β → Prop} {read : β → Checked α} {xs ys : List β}
    (h : List.Forall₂ alike xs ys) (hread : ∀ x y, alike x y → read x = read y) (i : ℕ) :
    eachFrom read i xs = eachFrom read i ys := by
  induction h generalizing i with
  | nil => rfl
  | cons hitem _ ih => rw [eachFrom, eachFrom, hread _ _ hitem, ih]

theorem list_congr {alike : Datum → Datum → Prop} {read : Datum → Checked α}
    (h : v.ItemsVary alike w) (hread : ∀ x y, alike x y → read x = read y) :
    list read v = list read w := by
  cases h with
  | same => rfl
  | list h => exact eachFrom_congr h hread 0

end Schema

end DesignRules
