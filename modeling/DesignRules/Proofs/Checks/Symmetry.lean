import DesignRules.Proofs.Checks.Wirewise

/-! # Comparisons of two interfaces

Bus types, clocks and data or address widths differ whichever of two interfaces comes first. Of
two identifier widths one exceeds the other only one way, unless one is a NaN.
-/

namespace DesignRules

namespace Extended

theorem eq_comm (x y : Extended) : x.eq y = y.eq x := Bool.and_comm _ _

theorem le_total (x y : Extended) : x.le y ∨ y.le x := by
  cases x <;> cases y <;> simp only [le, decide_eq_true_eq, true_or, or_true]
  case ratio.ratio a b c d => exact Int.le_total _ _

end Extended

namespace Width

theorem agrees_iff {a b : Width} : a.agrees b ↔ (∃ s, a = .word s ∧ b = .word s) ∨
    ∃ x y, a.value? = some x ∧ b.value? = some y ∧ x.eq y := by
  unfold agrees
  split
  case h_1 s t =>
    have hvalue : ¬ ∃ x y, (word s).value? = some x ∧ (word t).value? = some y ∧ x.eq y := by
      rintro ⟨_, _, h, -⟩
      cases h
    rw [or_iff_left hvalue, beq_iff_eq]
    simp only [word.injEq, exists_eq_left', eq_comm]
  case h_2 _ _ hwords =>
    rw [or_iff_right fun ⟨s, ha, hb⟩ => hwords s s ha hb]
    cases a.value? <;> cases b.value? <;> simp

theorem agrees_comm (a b : Width) : a.agrees b = b.agrees a := by
  rw [Bool.eq_iff_iff, agrees_iff, agrees_iff]
  refine or_congr (exists_congr fun _ => and_comm) (exists_comm.trans ?_)
  refine exists₂_congr fun y x => ?_
  rw [Extended.eq_comm x y]
  exact and_left_comm

theorem eq_nan_of_value?_eq_none {w : Width} (hw : w.isNumber) (h : w.value? = none) :
    w = .fraction .nan := by
  cases w with
  | flag => cases hw
  | number => cases h
  | word => cases hw
  | fraction x =>
    cases x with
    | nan => rfl
    | finite => cases h
    | infinite negative => cases negative <;> cases h

/-- Of two numbers one is at most the other, unless one is a NaN. -/
theorem eq_nan_of_not_atMost {a b : Width} (ha : a.isNumber) (hb : b.isNumber)
    (hab : ¬ a.atMost b) (hba : ¬ b.atMost a) : a = .fraction .nan ∨ b = .fraction .nan := by
  cases hx : a.value? with
  | none => exact .inl (eq_nan_of_value?_eq_none ha hx)
  | some x =>
    cases hy : b.value? with
    | none => exact .inr (eq_nan_of_value?_eq_none hb hy)
    | some y =>
      simp only [atMost, hx, hy] at hab hba
      exact absurd (Extended.le_total x y) (not_or.mpr ⟨hab, hba⟩)

end Width

namespace Checks

variable (s t : Interface)

theorem isSome_differingBuses?_comm :
    (differingBuses? s t).isSome = (differingBuses? t s).isSome := by
  unfold differingBuses?
  cases filled s.busType with
  | none => cases filled t.busType <;> rfl
  | some a =>
    cases filled t.busType with
    | none => rfl
    | some b => by_cases h : BusType.normalize a = BusType.normalize b <;> simp [h, Ne.symm]

theorem isSome_differingClocks?_comm :
    (differingClocks? s t).isSome = (differingClocks? t s).isSome := by
  unfold differingClocks?
  cases filled s.speed with
  | none => cases filled t.speed <;> rfl
  | some a =>
    cases filled t.speed with
    | none => rfl
    | some b => by_cases h : a = b <;> simp [h, Ne.symm]

theorem isSome_differingWidths?_comm (x y : Option Width) :
    (differingWidths? x y).isSome = (differingWidths? y x).isSome := by
  cases x with
  | none => cases y <;> rfl
  | some a =>
    cases y with
    | none => rfl
    | some b =>
      simp only [differingWidths?, Width.agrees_comm b a, Bool.and_comm b.isTrue]
      split <;> rfl

/-- Interfaces that are compared only if both are AXI are so whichever comes first. -/
theorem isSome_axiFault?_comm {α : Type} {fault? : Interface → Interface → Option α}
    (h : ∀ s t, (fault? s t).isSome = (fault? t s).isSome) :
    (axiFault? fault? s t).isSome = (axiFault? fault? t s).isSome := by
  simp only [axiFault?, Bool.and_comm t.isAxi]
  split
  · exact h s t
  · rfl

/-- Two widths exceed each other only if one is a NaN. -/
theorem eq_nan_of_exceedingWidths? {x y : Option Width} {widths widths' : Width × Width}
    (h : exceedingWidths? x y = some widths) (h' : exceedingWidths? y x = some widths') :
    x = some (.fraction .nan) ∨ y = some (.fraction .nan) := by
  cases x with
  | none => cases h
  | some a =>
    cases y with
    | none => cases h
    | some b =>
      simp only [exceedingWidths?, Option.ite_none_right_eq_some, Bool.and_eq_true,
        Bool.not_eq_true'] at h h'
      obtain ⟨⟨⟨⟨⟨ha, hb⟩, -⟩, -⟩, hab⟩, -⟩ := h
      rw [Option.some_inj, Option.some_inj]
      exact Width.eq_nan_of_not_atMost ha hb (by simp [hab]) (by simp [h'.1.2])

end Checks

end DesignRules
