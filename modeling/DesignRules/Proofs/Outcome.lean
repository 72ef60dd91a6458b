import Mathlib.Data.List.Forall2

/-! # Computations that may fail

When a mapped, a chained or a repeated computation succeeds, and with what result.
-/

namespace DesignRules.Outcome

variable {α β ε : Type}

theorem map_eq_ok_iff {x : Except ε α} {f : α → β} {b : β} :
    x.map f = .ok b ↔ ∃ a, x = .ok a ∧ f a = b := by
  cases x <;> simp [Except.map]

theorem map_eq_error_iff {x : Except ε α} {f : α → β} {e : ε} :
    x.map f = .error e ↔ x = .error e := by
  cases x <;> simp [Except.map]

theorem bind_eq_ok_iff {x : Except ε α} {f : α → Except ε β} {b : β} :
    (x >>= f) = .ok b ↔ ∃ a, x = .ok a ∧ f a = .ok b := by
  cases x <;> simp [bind, Except.bind]

theorem exists_map_eq_ok_iff {x : Except ε α} {f : α → β} :
    (∃ b, x.map f = .ok b) ↔ ∃ a, x = .ok a := by
  cases x <;> simp [Except.map]

theorem exists_bind_eq_ok_iff {x : Except ε α} {f : α → Except ε β} :
    (∃ b, (x >>= f) = .ok b) ↔ ∃ a, x = .ok a ∧ ∃ b, f a = .ok b := by
  cases x <;> simp [bind, Except.bind]

theorem mapM_eq_ok_iff {f : α → Except ε β} {l : List α} {bs : List β} :
    l.mapM f = .ok bs ↔ List.Forall₂ (fun a b => f a = .ok b) l bs := by
  induction l generalizing bs with
  | nil => simp [pure, Except.pure, eq_comm]
  | cons a l ih =>
    rw [List.mapM_cons, List.forall₂_cons_left_iff, bind_eq_ok_iff]
    simp only [bind_eq_ok_iff, ih, pure, Except.pure, Except.ok.injEq]
    grind

theorem exists_mapM_eq_ok_iff {f : α → Except ε β} {l : List α} :
    (∃ bs, l.mapM f = .ok bs) ↔ ∀ a ∈ l, ∃ b, f a = .ok b := by
  induction l with
  | nil => simp [pure, Except.pure]
  | cons a l ih =>
    rw [List.forall_mem_cons, ← ih]
    simp only [List.mapM_cons, bind_eq_ok_iff, pure, Except.pure, Except.ok.injEq]
    grind

theorem mem_of_mapM_eq_ok {f : α → Except ε β} {l : List α} {bs : List β}
    (h : l.mapM f = .ok bs) {b : β} : b ∈ bs ↔ ∃ a ∈ l, f a = .ok b := by
  rw [mapM_eq_ok_iff] at h
  induction h with
  | nil => simp
  | cons hab _ ih => simp [ih, hab, eq_comm]

/-- Two passes over a list succeed exactly if both steps succeed at each member. -/
theorem exists_mapM_mapM_eq_ok_iff {γ : Type} {f : α → Except ε β} {g : β → Except ε γ}
    {l : List α} : (∃ bs, l.mapM f = .ok bs ∧ ∃ cs, bs.mapM g = .ok cs) ↔
      ∀ a ∈ l, ∃ b, f a = .ok b ∧ ∃ c, g b = .ok c := by
  constructor
  · rintro ⟨bs, hbs, hcs⟩ a ha
    obtain ⟨b, hb⟩ := exists_mapM_eq_ok_iff.mp ⟨bs, hbs⟩ a ha
    exact ⟨b, hb, exists_mapM_eq_ok_iff.mp hcs b ((mem_of_mapM_eq_ok hbs).mpr ⟨a, ha, hb⟩)⟩
  · intro h
    obtain ⟨bs, hbs⟩ := exists_mapM_eq_ok_iff.mpr fun a ha => (h a ha).imp fun _ hb => hb.1
    refine ⟨bs, hbs, exists_mapM_eq_ok_iff.mpr fun b hb => ?_⟩
    obtain ⟨a, ha, hab⟩ := (mem_of_mapM_eq_ok hbs).mp hb
    obtain ⟨_, hfirst, hsecond⟩ := h a ha
    obtain rfl := Except.ok.inj (hab.symm.trans hfirst)
    exact hsecond

theorem forall₂_of_forall₂ {γ : Type} {r : α → β → Prop} {s : α → γ → Prop} {t : β → γ → Prop}
    {l : List α} {bs : List β} {cs : List γ} (h : ∀ a b c, r a b → s a c → t b c)
    (hr : List.Forall₂ r l bs) (hs : List.Forall₂ s l cs) : List.Forall₂ t bs cs := by
  induction hr generalizing cs with
  | nil =>
    cases hs
    exact .nil
  | cons hab _ ih =>
    cases hs with
    | cons hac hs => exact .cons (h _ _ _ hab hac) (ih hs)

end DesignRules.Outcome
