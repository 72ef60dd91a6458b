import DesignRules.Datum

/-! # Look-ups in fields

What an object gives for a key after fields have been inserted, removed or taken in from
another object, and which keys it then has.
-/

namespace DesignRules

namespace Scalar

/-- Only a text is the same key as a text. -/
theorem same_text_iff {s : Scalar} {t : String} : s.same (.text t) ↔ s = .text t := by
  have hagrees : s.agrees (.text t) = false := by cases s <;> simp [agrees, value?]
  simp [same, hagrees]

end Scalar

namespace Fields

variable {fields : Fields} {key other : String} {value : Datum}

theorem get?_cons (k : Scalar) (value : Datum) (fields : Fields) (key : String) :
    get? ((k, value) :: fields) key = if k = .text key then some value else fields.get? key := by
  by_cases h : k = .text key
  · subst h
    simp [get?]
  · have hne : (Scalar.text key == k) = false := beq_false_of_ne fun heq => h heq.symm
    simp [get?, List.lookup_cons, hne, h]

theorem get?_singleton (k : Scalar) (value : Datum) (key : String) :
    get? [(k, value)] key = if k = .text key then some value else none :=
  get?_cons k value [] key

theorem get?_append (fields more : Fields) (key : String) :
    get? (fields ++ more) key = (fields.get? key).or (more.get? key) :=
  List.lookup_append

theorem mem_of_get? (h : fields.get? key = some value) : (.text key, value) ∈ fields := by
  induction fields with
  | nil => cases h
  | cons field fields ih =>
    rw [get?_cons] at h
    split at h
    case isTrue hkey =>
      obtain rfl := Option.some.inj h
      exact hkey ▸ List.mem_cons_self
    case isFalse => exact List.mem_cons_of_mem _ (ih h)

theorem has_text_iff : fields.has (.text key) ↔ ∃ value, fields.get? key = some value := by
  induction fields with
  | nil => simp [has, get?]
  | cons field fields ih =>
    rw [has, List.any_cons, Bool.or_eq_true, Scalar.same_text_iff, ← has, ih, get?_cons]
    split <;> simp_all

theorem given?_eq_some_iff : fields.given? key = some value ↔
    fields.get? key = some value ∧ value.isNull = false := by
  simp [Fields.given?, Option.filter_eq_some_iff]

theorem isSome_get?_of_given? (h : (fields.given? key).isSome) : (fields.get? key).isSome := by
  obtain ⟨value, hvalue⟩ := Option.isSome_iff_exists.mp h
  exact Option.isSome_iff_exists.mpr ⟨value, (given?_eq_some_iff.mp hvalue).1⟩

theorem given?_eq_none_iff : fields.given? key = none ↔
    ∀ value ∈ fields.get? key, value.isNull := by
  cases hkey : fields.get? key <;> simp [Fields.given?, hkey]

/-- Replacing the values at a key leaves the other keys alone. -/
theorem get?_replaced (fields : Fields) (key : String) (value : Datum) (other : String) :
    get? (fields.map fun field => if field.1.same (.text key) then (field.1, value) else field)
      other = if other = key then (fields.get? key).map fun _ => value else fields.get? other := by
  induction fields with
  | nil => simp [get?]
  | cons field fields ih =>
    obtain ⟨k, v⟩ := field
    rw [List.map_cons]
    by_cases hk : k = .text key
    · rw [if_pos (Scalar.same_text_iff.mpr hk), get?_cons, get?_cons, get?_cons, ih]
      subst hk
      grind
    · rw [if_neg (mt Scalar.same_text_iff.mp hk), get?_cons, get?_cons, get?_cons, ih]
      grind

theorem get?_insert (fields : Fields) (key : String) (value : Datum) (other : String) :
    (fields.insert (.text key) value).get? other =
      if other = key then some value else fields.get? other := by
  unfold insert
  split
  case isTrue hhas =>
    obtain ⟨present, hpresent⟩ := has_text_iff.mp hhas
    rw [get?_replaced, hpresent]
    rfl
  case isFalse hhas =>
    have habsent : fields.get? key = none := by
      simpa [has_text_iff, ← Option.ne_none_iff_exists'] using hhas
    rw [get?_append, get?_cons]
    grind [get?]

theorem get?_remove (fields : Fields) (key other : String) :
    (fields.remove key).get? other = if other = key then none else fields.get? other := by
  induction fields with
  | nil => simp [remove, get?]
  | cons field fields ih =>
    obtain ⟨k, v⟩ := field
    rw [remove, List.filter_cons, ← remove]
    split <;> simp_all [get?_cons] <;> grind

/-- Of two objects the first is asked first. -/
theorem get?_merged (fields more : Fields) (key : String) :
    get? (fields ++ more.filter fun field => !fields.has field.1) key =
      (fields.get? key).or (more.get? key) := by
  rw [get?_append]
  cases hkey : fields.get? key with
  | some value => rfl
  | none =>
    have hhas : ¬ fields.has (.text key) := by simp [has_text_iff, hkey]
    induction more with
    | nil => rfl
    | cons field more ih =>
      obtain ⟨k, v⟩ := field
      rw [List.filter_cons]
      by_cases hk : k = .text key
      · subst hk
        simp [hhas, get?_cons]
      · split <;> simpa [get?_cons, hk] using ih

/-! ## Keys -/

variable {p : Scalar → Bool}

theorem any_key_insert (hp : p (.text key) = false) (fields : Fields) (value : Datum) :
    (fields.insert (.text key) value).any (fun field => p field.1) =
      fields.any fun field => p field.1 := by
  unfold insert
  split
  · rw [List.any_map]
    congr 1
    funext field
    simp only [Function.comp_apply]
    split <;> rfl
  · simp [hp]

theorem any_key_remove (hp : p (.text key) = false) (fields : Fields) :
    (fields.remove key).any (fun field => p field.1) = fields.any fun field => p field.1 := by
  rw [remove, List.any_filter]
  congr 1
  funext field
  by_cases hfield : field.1 = .text key <;> simp [hfield, hp]

theorem filter_insert (hp : p (.text key) = false) (fields : Fields) (value : Datum) :
    (fields.insert (.text key) value).filter (fun field => p field.1) =
      fields.filter fun field => p field.1 := by
  unfold insert
  split
  case isTrue hhas =>
    clear hhas
    induction fields with
    | nil => rfl
    | cons field fields ih =>
      rw [List.map_cons, List.filter_cons, List.filter_cons, ih]
      split
      case isTrue hsame =>
        rw [Scalar.same_text_iff] at hsame
        simp [hsame, hp]
      case isFalse => rfl
  case isFalse => simp [hp]

theorem filter_remove (hp : p (.text key) = false) (fields : Fields) :
    (fields.remove key).filter (fun field => p field.1) = fields.filter fun field => p field.1 := by
  rw [remove, List.filter_filter]
  refine List.filter_congr fun field _ => ?_
  by_cases hfield : field.1 = .text key <;> simp [hfield, hp]

theorem remove_insert (fields : Fields) (key : String) (value : Datum) :
    (fields.insert (.text key) value).remove key = fields.remove key :=
  filter_insert (p := fun k => k != .text key) (by simp) fields value

end Fields

end DesignRules
