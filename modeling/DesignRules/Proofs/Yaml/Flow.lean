import DesignRules.Proofs.Numeral.Runs
import DesignRules.Proofs.Yaml.Documents
import DesignRules.Yaml.Flow

/-! # Flow style reads back

Plain data in flow style is read as it was. So an engine that falls back on this style for
whatever it cannot read back from its block style inverts all its writing.
-/

namespace DesignRules.Yaml

namespace Flow

variable {cs rest : List Char} {items : List Datum} {given : Fields} {value : Datum} {n : ℤ}

/-! ## Texts -/

theorem quoted?_charForms (h : cs.all Text.isPrintable) :
    quoted? (cs.flatMap charForm ++ '"' :: rest) = some (cs, rest) := by
  induction cs with
  | nil => rfl
  | cons c cs ih =>
    rw [List.all_cons, Bool.and_eq_true] at h
    obtain ⟨hc, hcs⟩ := h
    rw [List.flatMap_cons, List.append_assoc, charForm]
    split
    case isTrue => simp [quoted?, ih hcs]
    case isFalse hplain =>
      rw [List.singleton_append, quoted?, ih hcs]
      · rfl
      · rintro rfl
        simp at hplain
      · rintro _ _ rfl
        simp at hplain

/-! ## Integers -/

/-- The characters of an integer end where the rest begins. -/
def EndsNumeral (rest : List Char) : Prop := ∀ c ∈ rest.head?, isNumeralChar c = false

theorem endsNumeral_cons {c : Char} (h : isNumeralChar c = false) : EndsNumeral (c :: rest) := by
  rintro _ ⟨⟩
  exact h

theorem signed?_signed (n : ℤ) : Numeral.signed? (Numeral.run? Text.digitValue? 10)
    (Numeral.signed (Numeral.natural 10) n) = some n := by
  have hdigit : ∀ d < 10, Text.digitValue? (Numeral.digitChar d) = some d := by decide
  have hrun := Numeral.run?_natural (by omega) hdigit n.natAbs
  have hsigns : Text.digitValue? '+' = none ∧ Text.digitValue? '-' = none := by decide
  have hsign (cs : List Char) : Numeral.run? Text.digitValue? 10 ('+' :: cs) = none ∧
      Numeral.run? Text.digitValue? 10 ('-' :: cs) = none := by
    obtain ⟨hplus, hminus⟩ := Numeral.not_isRun_sign hsigns cs
    simp [Option.eq_none_iff_forall_ne_some, Numeral.run?_eq_some_iff, hplus, hminus]
  have hsigned : Numeral.Signed (Numeral.natural 10 n.natAbs) n.natAbs
      (Numeral.signed (Numeral.natural 10) n) n := by
    unfold Numeral.signed
    split
    case isTrue hneg =>
      have hminus : Numeral.Signed (Numeral.natural 10 n.natAbs) n.natAbs _ _ := .minus
      rwa [Int.ofNat_natAbs_of_nonpos (by omega), Int.neg_neg] at hminus
    case isFalse hpos =>
      have hunsigned : Numeral.Signed (Numeral.natural 10 n.natAbs) n.natAbs _ _ := .unsigned
      rwa [Int.natAbs_of_nonneg (by omega)] at hunsigned
  exact (Numeral.signed?_eq_some_iff hsign).mpr ⟨_, _, hrun, hsigned⟩

theorem isNumeralChar_of_mem_signed {c : Char} (h : c ∈ Numeral.signed (Numeral.natural 10) n) :
    isNumeralChar c := by
  have hdigit : ∀ d < 10, isNumeralChar (Numeral.digitChar d) := by decide
  have hnatural : ∀ c ∈ Numeral.natural 10 n.natAbs, isNumeralChar c := by
    intro c hc
    obtain ⟨d, hd, rfl⟩ := List.mem_map.mp hc
    exact hdigit d (Numeral.lt_of_mem_digits (by omega) hd)
  unfold Numeral.signed at h
  split at h
  · rcases List.mem_cons.mp h with rfl | h
    · rfl
    · exact hnatural c h
  · exact hnatural c h

theorem form_int (h : Numeral.isTooLong n = false) :
    form (.int n) = Numeral.signed (Numeral.natural 10) n := by
  rw [form, scalarForm, h]
  rfl

theorem exists_signed_eq_cons (n : ℤ) : ∃ c cs,
    Numeral.signed (Numeral.natural 10) n = c :: cs ∧ isNumeralChar c := by
  have hne : Numeral.signed (Numeral.natural 10) n ≠ [] := by
    unfold Numeral.signed
    split <;> simp [Numeral.natural, Numeral.digits_ne_nil]
  obtain ⟨c, cs, hcs⟩ := List.exists_cons_of_ne_nil hne
  exact ⟨c, cs, hcs, isNumeralChar_of_mem_signed (hcs ▸ List.mem_cons_self)⟩

theorem integer?_signed (n : ℤ) (hrest : EndsNumeral rest) :
    integer? (Numeral.signed (Numeral.natural 10) n ++ rest) = some (n, rest) := by
  rw [integer?, takeWhile_append_of_head? (fun c => isNumeralChar_of_mem_signed) hrest,
    dropWhile_append_of_head? (fun c => isNumeralChar_of_mem_signed) hrest, signed?_signed]
  rfl

/-! ## Values -/

/-- No form starts like the end of a list. -/
theorem exists_form_eq_cons (h : value.IsPlain) : ∃ c cs, form value = c :: cs ∧ c ≠ ']' := by
  cases h with
  | int n h =>
    obtain ⟨c, cs, hcs, hc⟩ := exists_signed_eq_cons n
    refine ⟨c, cs, (form_int h).trans hcs, ?_⟩
    rintro rfl
    exact absurd hc (by decide)
  | text s _ => exact ⟨'"', _, rfl, by decide⟩
  | list items _ => exact ⟨'[', _, rfl, by decide⟩
  | object given _ _ _ => exact ⟨'\x7b', _, rfl, by decide⟩

/-- The value is read from its form, whatever comes after it. -/
def Reads (value : Datum) : Prop := ∀ fuel rest, (form value).length ≤ fuel → EndsNumeral rest →
  value? fuel (form value ++ rest) = some (value, rest)

theorem reads_int (h : Numeral.isTooLong n = false) : Reads (.int n) := by
  intro fuel rest hfuel hrest
  obtain ⟨c, cs, hcs, hc⟩ := exists_signed_eq_cons n
  rw [form_int h] at hfuel ⊢
  cases fuel with
  | zero => simp [hcs] at hfuel
  | succ fuel =>
    have hinteger := integer?_signed n hrest
    rw [hcs, List.cons_append] at hinteger ⊢
    unfold value?
    -- neither a quote nor a bracket stands in an integer
    split
    case h_4 => rw [hinteger]; rfl
    all_goals
      rename_i heq
      obtain ⟨rfl, -⟩ := List.cons.inj heq
      exact absurd hc (by decide)

theorem reads_text {s : String} (h : s.toList.all Text.isPrintable) : Reads (.text s) := by
  intro fuel rest hfuel _
  cases fuel with
  | zero => simp [form, scalarForm] at hfuel
  | succ fuel =>
    have hquoted : quoted? (s.toList.flatMap charForm ++ '"' :: rest) = some (s.toList, rest) :=
      quoted?_charForms h
    simp only [form, scalarForm, List.cons_append, List.append_assoc, List.nil_append, value?,
      hquoted, Option.map_some, String.ofList_toList]

theorem items?_itemForms (hplain : ∀ item ∈ items, item.IsPlain) (h : ∀ item ∈ items, Reads item)
    {fuel : ℕ} (hfuel : (itemForms items).length < fuel) :
    items? fuel (itemForms items ++ ']' :: rest) = some (items, rest) := by
  induction items generalizing fuel with
  | nil =>
    cases fuel with
    | zero => cases hfuel
    | succ fuel => rfl
  | cons item items ih =>
    obtain ⟨hitem, hitems⟩ := List.forall_mem_cons.mp h
    obtain ⟨hfirst, hothers⟩ := List.forall_mem_cons.mp hplain
    cases fuel with
    | zero => cases hfuel
    | succ fuel =>
      simp only [itemForms, List.length_append, List.length_cons] at hfuel
      have hhead := hitem fuel (',' :: (itemForms items ++ ']' :: rest)) (by omega)
        (endsNumeral_cons (by decide))
      have htail : items? fuel (itemForms items ++ ']' :: rest) = some (items, rest) :=
        ih hothers hitems (by omega)
      obtain ⟨c, cs, hcs, hc⟩ := exists_form_eq_cons hfirst
      rw [itemForms, List.append_assoc, List.cons_append]
      rw [hcs, List.cons_append] at hhead ⊢
      unfold items?
      split
      case h_1 heq => exact absurd (List.cons.inj heq).1 hc
      case h_2 =>
        rw [hhead]
        simp [htail]

theorem fields?_fieldForms (htexts : ∀ field ∈ given, ∃ key, field.1 = .text key)
    (hprintable : ∀ field ∈ given, (Datum.scalar field.1).IsPlain)
    (h : ∀ field ∈ given, Reads field.2) {fuel : ℕ} (hfuel : (fieldForms given).length < fuel) :
    fields? fuel (fieldForms given ++ '\x7d' :: rest) = some (given, rest) := by
  induction given generalizing fuel with
  | nil =>
    cases fuel with
    | zero => cases hfuel
    | succ fuel => rfl
  | cons field given ih =>
    obtain ⟨k, value⟩ := field
    obtain ⟨⟨key, hkey⟩, hkeys⟩ := List.forall_mem_cons.mp htexts
    obtain rfl : k = .text key := hkey
    obtain ⟨hvalue, hvalues⟩ := List.forall_mem_cons.mp h
    replace hvalue : Reads value := hvalue
    obtain ⟨hfirst, hothers⟩ := List.forall_mem_cons.mp hprintable
    cases fuel with
    | zero => cases hfuel
    | succ fuel =>
      simp only [fieldForms, List.length_append, List.length_cons] at hfuel
      have hhead := hvalue fuel (',' :: (fieldForms given ++ '\x7d' :: rest)) (by omega)
        (endsNumeral_cons (by decide))
      have htail : fields? fuel (fieldForms given ++ '\x7d' :: rest) = some (given, rest) :=
        ih hkeys hothers hvalues (by omega)
      cases hfirst with
      | text _ hprints =>
        simp [fieldForms, scalarForm, fields?, quoted?_charForms hprints, hhead, htail]

theorem reads_of_isPlain (h : value.IsPlain) : Reads value := by
  induction h with
  | int n h => exact reads_int h
  | text s h => exact reads_text h
  | list items hplain ih =>
    intro fuel rest hfuel _
    simp only [form, List.length_append, List.length_cons, List.length_nil] at hfuel
    cases fuel with
    | zero => omega
    | succ fuel =>
      have hitems : items? fuel (itemForms items ++ ']' :: rest) = some (items, rest) :=
        items?_itemForms hplain ih (by omega)
      simp [form, value?, hitems]
  | object given hkeys hprintable _ _ ih =>
    intro fuel rest hfuel _
    simp only [form, List.length_append, List.length_cons, List.length_nil] at hfuel
    cases fuel with
    | zero => omega
    | succ fuel =>
      have hfields : fields? fuel (fieldForms given ++ '\x7d' :: rest) = some (given, rest) :=
        fields?_fieldForms hkeys.text hprintable ih (by omega)
      simp [form, value?, hfields, Fields.collected_eq_self hkeys]

theorem read?_form (h : value.IsPlain) : read? (form value) = some value := by
  have hread := reads_of_isPlain h (form value).length [] le_rfl nofun
  rw [List.append_nil] at hread
  simp [read?, hread]

end Flow

/-! ## The engine with both styles -/

theorem inverts_checkedEngine : @Engine.Inverts checkedEngine := by
  intro given hplain
  have hread : readAny (writeChecked given) = .ok (.object given) := by
    unfold writeChecked
    split
    case isTrue hblock =>
      cases hloaded : readAny (write given) with
      | ok value =>
        rw [hloaded] at hblock
        exact congrArg Except.ok (Option.some.inj hblock)
      | error fault =>
        rw [hloaded] at hblock
        cases hblock
    case isFalse => rw [readAny, String.toList_ofList, Flow.read?_form hplain]
  exact congrArg (Except.map Document.data) hread

end DesignRules.Yaml
