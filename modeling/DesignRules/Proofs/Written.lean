import DesignRules.Proofs.Fields

/-! # Values as they are written

A value is written as it is exactly if it is data that JSON has a form for. What is written is such
data, whatever it was before.
-/

namespace DesignRules

namespace Fields

variable {fields acc : Fields} {key : String} {value : Datum}

/-- The keys are texts, each of them given once. -/
structure HasTextKeys (fields : Fields) : Prop where
  text : ∀ field ∈ fields, ∃ key, field.1 = .text key
  nodup : (fields.map (·.1)).Nodup

theorem has_text_iff_mem : fields.has (.text key) ↔ .text key ∈ fields.map (·.1) := by
  simp only [has, List.any_eq_true, Scalar.same_text_iff, List.mem_map]

theorem map_fst_insert (fields : Fields) (key : String) (value : Datum) :
    (fields.insert (.text key) value).map (·.1) =
      if fields.has (.text key) then fields.map (·.1) else fields.map (·.1) ++ [.text key] := by
  unfold insert
  split
  · rw [List.map_map]
    apply List.map_congr_left
    intro field _
    simp only [Function.comp_apply]
    split <;> rfl
  · rw [List.map_append, List.map_singleton]

theorem HasTextKeys.insert (h : fields.HasTextKeys) (key : String) (value : Datum) :
    (fields.insert (.text key) value).HasTextKeys := by
  have htexts : ∀ k ∈ (fields.insert (.text key) value).map (·.1), ∃ key, k = .text key := by
    intro k hk
    rw [map_fst_insert] at hk
    have hmem : k ∈ fields.map (·.1) ∨ k = .text key := by grind
    rcases hmem with hold | rfl
    · obtain ⟨field, hfield, rfl⟩ := List.mem_map.mp hold
      exact h.text field hfield
    · exact ⟨key, rfl⟩
  constructor
  · exact fun field hfield => htexts _ (List.mem_map_of_mem hfield)
  · rw [map_fst_insert]
    split
    case isTrue => exact h.nodup
    case isFalse hfresh =>
      rw [has_text_iff_mem] at hfresh
      exact List.nodup_append.mpr ⟨h.nodup, List.pairwise_singleton _ _, by grind⟩

theorem mem_insert {field : Scalar × Datum} (h : field ∈ fields.insert (.text key) value) :
    field.2 = value ∨ field ∈ fields := by
  unfold insert at h
  split at h
  · obtain ⟨old, hold, rfl⟩ := List.mem_map.mp h
    split
    · exact .inl rfl
    · exact .inr hold
  · rcases List.mem_append.mp h with hold | hnew
    · exact .inr hold
    · exact .inl (congrArg Prod.snd (List.mem_singleton.mp hnew))

/-- Whatever the inserted fields keep, all of them together keep. -/
theorem foldl_insert_induction {p : Fields → Prop} (hacc : p acc)
    (htexts : ∀ field ∈ fields, ∃ key, field.1 = .text key)
    (hstep : ∀ acc, p acc → ∀ key value, (.text key, value) ∈ fields →
      p (acc.insert (.text key) value)) :
    p (fields.foldl (fun given field => given.insert field.1 field.2) acc) := by
  induction fields generalizing acc with
  | nil => exact hacc
  | cons field fields ih =>
    obtain ⟨⟨key, hkey⟩, hrest⟩ := List.forall_mem_cons.mp htexts
    obtain ⟨k, value⟩ := field
    obtain rfl : k = .text key := hkey
    apply ih (hstep acc hacc key value List.mem_cons_self) hrest
    exact fun acc hacc key value hmem => hstep acc hacc key value (List.mem_cons_of_mem _ hmem)

theorem hasTextKeys_collected (htexts : ∀ field ∈ fields, ∃ key, field.1 = .text key) :
    fields.collected.HasTextKeys := by
  have hempty : HasTextKeys [] := ⟨nofun, List.nodup_nil⟩
  exact foldl_insert_induction hempty htexts fun acc hacc key value _ => hacc.insert key value

theorem forall_mem_collected {p : Datum → Prop} (h : ∀ field ∈ fields, p field.2)
    (htexts : ∀ field ∈ fields, ∃ key, field.1 = .text key) :
    ∀ field ∈ fields.collected, p field.2 := by
  apply foldl_insert_induction (p := fun acc => ∀ field ∈ acc, p field.2) (by simp) htexts
  intro acc hacc key value hmem field hfield
  rcases mem_insert hfield with heq | hold
  · exact heq ▸ h _ hmem
  · exact hacc field hold

/-- Fields that are all new are added one after the other. -/
theorem foldl_insert_of_hasTextKeys (h : (acc ++ fields).HasTextKeys) :
    fields.foldl (fun given field => given.insert field.1 field.2) acc = acc ++ fields := by
  induction fields generalizing acc with
  | nil => exact (List.append_nil acc).symm
  | cons field fields ih =>
    obtain ⟨k, value⟩ := field
    obtain ⟨key, hkey⟩ := h.text (k, value) (by simp)
    obtain rfl : k = .text key := hkey
    have hfresh : acc.has (.text key) = false := by
      rw [Bool.eq_false_iff, Ne, has_text_iff_mem]
      have hnodup := h.nodup
      rw [List.map_append, List.map_cons, List.nodup_append] at hnodup
      exact fun hmem => hnodup.2.2 _ hmem _ List.mem_cons_self rfl
    rw [List.foldl_cons, insert, hfresh, if_neg Bool.false_ne_true, ih (by simpa using h),
      List.append_assoc, List.singleton_append]

theorem collected_eq_self (h : fields.HasTextKeys) : fields.collected = fields := by
  have hempty : HasTextKeys ([] ++ fields) := h
  exact foldl_insert_of_hasTextKeys hempty

end Fields

namespace Datum

/-- Data as JSON has it: no moments, and every key of an object is a text, given once. -/
inductive IsJsonData : Datum → Prop where
  | scalar (s : Scalar) (h : ∀ m, s ≠ .moment m) : IsJsonData (.scalar s)
  | list (items : List Datum) (h : ∀ item ∈ items, IsJsonData item) : IsJsonData (.list items)
  | object (given : Fields) (hkeys : given.HasTextKeys) (h : ∀ field ∈ given, IsJsonData field.2) :
    IsJsonData (.object given)

/-- No float in the value is infinite or a NaN. -/
inductive IsFinite : Datum → Prop where
  | scalar (s : Scalar) (h : ∀ x, s = .float x → x.isFinite) : IsFinite (.scalar s)
  | list (items : List Datum) (h : ∀ item ∈ items, IsFinite item) : IsFinite (.list items)
  | object (given : Fields) (h : ∀ field ∈ given, IsFinite field.2) : IsFinite (.object given)

theorem writtenItems_eq_map (items : List Datum) : writtenItems items = items.map written := by
  induction items with
  | nil => rfl
  | cons item items ih => rw [writtenItems, ih, List.map_cons]

theorem writtenFields_eq_map (given : Fields) :
    writtenFields given = given.map fun field => (.text field.1.keyText, field.2.written) := by
  induction given with
  | nil => rfl
  | cons field given ih => rw [writtenFields, ih, List.map_cons]

theorem text_writtenFields (given : Fields) :
    ∀ field ∈ writtenFields given, ∃ key, field.1 = .text key := by
  intro field hfield
  rw [writtenFields_eq_map] at hfield
  obtain ⟨⟨key, value⟩, -, rfl⟩ := List.mem_map.mp hfield
  exact ⟨key.keyText, rfl⟩

theorem written_eq_self {value : Datum} (h : value.IsJsonData) (hfinite : value.IsFinite) :
    value.written = value := by
  induction h with
  | scalar s h =>
    cases s with
    | float x =>
      cases hfinite with
      | scalar _ hfloat => simp [written, Scalar.written, hfloat x rfl]
    | moment m => exact (h m rfl).elim
    | _ => rfl
  | list items _ ih =>
    cases hfinite with
    | list _ hitems =>
      have hself : items.map written = items.map id :=
        List.map_congr_left fun item hitem => ih item hitem (hitems item hitem)
      rw [written, writtenItems_eq_map, hself, List.map_id]
  | object given hkeys _ ih =>
    cases hfinite with
    | object _ hgiven =>
      have hself : given.map (fun field => (Scalar.text field.1.keyText, field.2.written)) =
          given.map id := by
        apply List.map_congr_left
        rintro ⟨k, value⟩ hfield
        obtain ⟨key, rfl⟩ := hkeys.text (k, value) hfield
        exact Prod.ext rfl (ih (.text key, value) hfield (hgiven (.text key, value) hfield))
      rw [written, writtenFields_eq_map, hself, List.map_id, Fields.collected_eq_self hkeys]

theorem isJsonData_scalar_written (s : Scalar) :
    (Datum.scalar s.written).IsJsonData ∧ (Datum.scalar s.written).IsFinite := by
  cases s with
  | float x =>
    cases hx : x.isFinite with
    | true =>
      rw [Scalar.written, hx]
      exact ⟨.scalar _ nofun, .scalar _ fun y hy => Scalar.float.inj hy ▸ hx⟩
    | false =>
      rw [Scalar.written, hx]
      exact ⟨.scalar _ nofun, .scalar _ nofun⟩
  | _ => exact ⟨.scalar _ nofun, .scalar _ nofun⟩

mutual

theorem isJsonData_written : ∀ value : Datum, value.written.IsJsonData ∧ value.written.IsFinite
  | .scalar s => isJsonData_scalar_written s
  | .list items =>
    ⟨.list _ fun item hitem => (isJsonData_writtenItems items item hitem).1,
      .list _ fun item hitem => (isJsonData_writtenItems items item hitem).2⟩
  | .object given => by
    have hvalues := Fields.forall_mem_collected
      (p := fun value => value.IsJsonData ∧ value.IsFinite) (isJsonData_writtenFields given)
      (text_writtenFields given)
    have hkeys := Fields.hasTextKeys_collected (text_writtenFields given)
    exact ⟨.object _ hkeys fun field hfield => (hvalues field hfield).1,
      .object _ fun field hfield => (hvalues field hfield).2⟩

theorem isJsonData_writtenItems : ∀ items : List Datum, ∀ item ∈ writtenItems items,
    item.IsJsonData ∧ item.IsFinite
  | [] => by simp [writtenItems]
  | item :: items =>
    List.forall_mem_cons.mpr ⟨isJsonData_written item, isJsonData_writtenItems items⟩

theorem isJsonData_writtenFields : ∀ given : Fields, ∀ field ∈ writtenFields given,
    field.2.IsJsonData ∧ field.2.IsFinite
  | [] => by simp [writtenFields]
  | (_, value) :: given =>
    List.forall_mem_cons.mpr ⟨isJsonData_written value, isJsonData_writtenFields given⟩

end

theorem written_eq_self_iff {value : Datum} :
    value.written = value ↔ value.IsJsonData ∧ value.IsFinite := by
  constructor
  · exact fun h => h ▸ isJsonData_written value
  · rintro ⟨hdata, hfinite⟩
    exact written_eq_self hdata hfinite

example : written (.object [(.int 1, .int 2), (.null, .null), (.text "1", .float .nan),
      (.text "d", .scalar (.moment ⟨⟨2024, 2, 29⟩, some ⟨6, 30, 0, 0, some 0⟩⟩))]) =
    .object [("1", .null), ("None", .null), ("d", .text "2024-02-29T06:30:00Z")] := by
  decide +kernel

end Datum

end DesignRules
