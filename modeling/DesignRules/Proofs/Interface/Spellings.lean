import DesignRules.Interface.Reading
import DesignRules.Proofs.Interface.Widths
import DesignRules.Proofs.Schema.Variation

/-! # Interfaces with other spellings of widths

An interface is read alike whichever spelling of an integer stands at the name of a width, be it a
name in use or an older one.
-/

namespace DesignRules.Interface

open Schema Schema.Checked Fields

/-- The names of widths: both spellings of those in use, and the older ones. -/
def widthKeys : List String :=
  ["dataWidth", "data_width", "addrWidth", "addr_width", "idWidth", "id_width", "width",
   "addressWidth"]

/-- At the name of a width stand two spellings of one integer. -/
def Respells (key : String) (v w : Datum) : Prop :=
  key ∈ widthKeys ∧ ∃ n, Width.Spells n v ∧ Width.Spells n w

/-- The same value, or an interface with widths in other spellings. -/
def Respelt : Datum → Datum → Prop := Datum.ObjectVaries Respells

variable {a b : Fields} {key : String} {v w : Datum} {α : Type}

theorem not_respells (h : key ∉ widthKeys) (v w : Datum) : ¬ Respells key v w := fun hkey =>
  h hkey.1

theorem isNull_of_respells (h : Respells key v w) : v.isNull = false ∧ w.isNull = false := by
  obtain ⟨-, n, hv, hw⟩ := h
  constructor
  · cases hv <;> rfl
  · cases hw <;> rfl

theorem given?_of_vary (h : a.Vary Respells b) (key : String) :
    Option.Rel (Admits Respells key) (a.given? key) (b.given? key) :=
  h.given? fun _ _ => isNull_of_respells

theorem given?_eq_of_vary (h : a.Vary Respells b) (hkey : key ∉ widthKeys) :
    a.given? key = b.given? key := by
  rw [Fields.given?, Fields.given?, h.get?_eq (not_respells hkey)]

/-! ## Preparing the fields -/

theorem renameOne_vary (h : a.Vary Respells b) (names : String × String)
    (hnames : names.1 ∈ widthKeys → names.2 ∈ widthKeys) :
    (renameOne a names).Vary Respells (renameOne b names) := by
  have holder := given?_of_vary h names.1
  have hcurrent := given?_of_vary h names.2
  unfold renameOne
  refine Vary.remove ?_ names.1
  generalize a.given? names.1 = x, b.given? names.1 = y at holder
  generalize a.given? names.2 = x', b.given? names.2 = y' at hcurrent
  -- no spelling of an integer is null, so a value is moved in both objects or in neither
  cases hcurrent with
  | some => exact h
  | none =>
    cases holder with
    | none => exact h
    | some hvalue => exact h.insert (hvalue.imp_right fun hspells => ⟨hnames hspells.1, hspells.2⟩)

theorem renamed_vary (h : a.Vary Respells b) : (renamed a).Vary Respells (renamed b) := by
  simp only [renamed, olderNames, List.foldl_cons, List.foldl_nil]
  have hwidth := renameOne_vary h ("width", "dataWidth") (by decide)
  have haddress := renameOne_vary hwidth ("addressWidth", "addrWidth") (by decide)
  have htype := renameOne_vary haddress ("type", "busType") (by decide)
  exact renameOne_vary htype ("frequency", "speed") (by decide)

theorem nameAsId_vary (h : a.Vary Respells b) : (nameAsId a).Vary Respells (nameAsId b) := by
  unfold nameAsId
  rw [given?_eq_of_vary h (by decide), h.get?_eq (not_respells (by decide))]
  split
  · split
    · exact h.insert (.inl rfl)
    · exact h
  · exact h

theorem idAsName_vary (h : a.Vary Respells b) : (idAsName a).Vary Respells (idAsName b) := by
  unfold idAsName
  rw [given?_eq_of_vary h (by decide), h.get?_eq (not_respells (by decide))]
  split
  · split
    · exact h
    · exact h.insert (.inl rfl)
  · exact h

theorem spelled_andThen_congr {read : Fields → Checked α} (h : a.Vary Respells b)
    (hkey : key ∉ widthKeys) (hread : ∀ a b : Fields, a.Vary Respells b → read a = read b) :
    (spelled key a).andThen read = (spelled key b).andThen read := by
  unfold spelled
  rw [h.get?_eq (not_respells hkey)]
  cases b.get? key with
  | none => exact hread a b h
  | some value =>
    dsimp only
    cases scalarText value with
    | valid spelling => exact hread _ _ (h.insert (.inl rfl))
    | invalid => rfl

theorem prepared_andThen (read : Fields → Checked α) (given : Fields) :
    (prepared given).andThen read = (spelled "id" (renamed given)).andThen fun given =>
      (spelled "name" given).andThen fun given => read (idAsName (nameAsId given)) := by
  unfold prepared
  cases spelled "id" (renamed given) with
  | invalid => rfl
  | valid given =>
    rw [andThen_valid, andThen_valid]
    cases spelled "name" given <;> rfl

/-! ## Reading -/

theorem declaredNames_congr (h : a.Vary Respells b) : declaredNames a = declaredNames b := by
  have hattributes : attributes a = attributes b := by
    refine List.filterMap_congr fun name _ => ?_
    have hkey := congrArg (Option.map fun key => (name, key)) (map_fst_find?_of_vary h name)
    simpa only [Option.map_map, Function.comp_def] using hkey
  have htexts (given : Fields) :
      given.filterMap (·.1.text?) = (given.map (·.1)).filterMap Scalar.text? := by
    rw [List.filterMap_map]
    rfl
  have hfurther : furtherNames a = furtherNames b := by
    rw [furtherNames, furtherNames, hattributes, htexts, htexts, h.map_fst]
  rw [declaredNames, declaredNames, hattributes, hfurther]

theorem untouched {name : Name} (h : name.camel ∉ widthKeys ∧ name.plain ∉ widthKeys) :
    Untouched Respells name :=
  fun v w => ⟨not_respells h.1 v w, not_respells h.2 v w⟩

theorem optional_width_congr (name : Name) (h : a.Vary Respells b) :
    Schema.optional name none Width.read a = Schema.optional name none Width.read b := by
  refine optional_congr h fun key _ v w hspells => ?_
  obtain ⟨-, n, hv, hw⟩ := hspells
  rw [Width.read_of_spells hv, Width.read_of_spells hw]

theorem attributesOf_congr (h : a.Vary Respells b) : attributesOf a = attributesOf b := by
  unfold attributesOf
  rw [required_of_untouched Field.id text h (untouched (by decide)),
    optional_of_untouched Field.name "" text h (untouched (by decide)),
    optional_of_untouched Field.busType none optionalText h (untouched (by decide)),
    optional_of_untouched Field.direction .unknown readDirection h (untouched (by decide)),
    optional_width_congr Field.dataWidth h, optional_width_congr Field.addrWidth h,
    optional_width_congr Field.idWidth h,
    optional_of_untouched Field.speed none optionalText h (untouched (by decide)),
    optional_of_untouched Field.protocol none optionalText h (untouched (by decide)),
    optional_of_untouched Field.optional false readOptional h (untouched (by decide)),
    declaredNames_congr h]

theorem ofFields_congr (h : a.Vary Respells b) : ofFields a = ofFields b := by
  have hbroken : hasBrokenName a = hasBrokenName b :=
    h.any_key fun key => key.text?.any Text.isBroken
  have hnames : checkNames a = checkNames b := by rw [checkNames, checkNames, h.map_fst]
  rw [ofFields, ofFields, hbroken, attributesOf_congr h, hnames]

theorem read_of_respelt (h : Respelt v w) : read v = read w := by
  refine fields_andThen_congr h fun a b hvary => ?_
  rw [prepared_andThen, prepared_andThen]
  refine spelled_andThen_congr (renamed_vary hvary) (by decide) fun a b hvary => ?_
  refine spelled_andThen_congr hvary (by decide) fun a b hvary => ?_
  exact ofFields_congr (idAsName_vary (nameAsId_vary hvary))

end DesignRules.Interface
