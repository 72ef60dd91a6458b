import DesignRules.Proofs.Outcome
import Mathlib.Data.List.Perm.Basic

/-! # Gathering findings

What is found at each member of a list, one after the other. Concatenated lists give
concatenated findings, and reordered lists give reordered ones.
-/

namespace DesignRules.Outcome

variable {α β γ ε : Type}

/-- What is found at each member of a list, or the first failure. -/
def gather (f : α → Except ε (List β)) (l : List α) : Except ε (List β) :=
  (l.mapM f).map List.flatten

variable {f g : α → Except ε (List β)} {l l' : List α} {bs : List β}

theorem append_eq_ok_iff {x y : Except ε (List β)} : (· ++ ·) <$> x <*> y = .ok bs ↔
    ∃ us vs, x = .ok us ∧ y = .ok vs ∧ us ++ vs = bs := by
  cases x <;> cases y <;> simp [Functor.map, Seq.seq, Except.map, Except.bind]

theorem exists_append_eq_ok_iff {x y : Except ε (List β)} :
    (∃ bs, (· ++ ·) <$> x <*> y = .ok bs) ↔ (∃ us, x = .ok us) ∧ ∃ vs, y = .ok vs := by
  simp only [append_eq_ok_iff]
  grind

theorem gather_nil : gather f [] = .ok [] := rfl

theorem gather_cons (a : α) : gather f (a :: l) = (· ++ ·) <$> f a <*> gather f l := by
  rw [gather, List.mapM_cons]
  cases f a <;> cases hl : l.mapM f <;> simp [gather, hl] <;> rfl

theorem gather_append : gather f (l ++ l') = (· ++ ·) <$> gather f l <*> gather f l' := by
  induction l with
  | nil => cases h : gather f l' <;> simp [gather_nil, h] <;> rfl
  | cons a l ih =>
    rw [List.cons_append, gather_cons, gather_cons, ih]
    cases f a <;> cases gather f l <;> cases gather f l' <;>
      simp [Functor.map, Seq.seq, Except.map, Except.bind]

theorem gather_congr (h : ∀ a ∈ l, f a = g a) : gather f l = gather g l := by
  induction l with
  | nil => rfl
  | cons a l ih =>
    obtain ⟨ha, hl⟩ := List.forall_mem_cons.mp h
    rw [gather_cons, gather_cons, ha, ih hl]

theorem gather_map (k : γ → α) (l : List γ) : gather f (l.map k) = gather (fun c => f (k c)) l := by
  induction l with
  | nil => rfl
  | cons c l ih => rw [List.map_cons, gather_cons, gather_cons, ih]

theorem gather_flatMap (k : γ → List α) (l : List γ) :
    gather f (l.flatMap k) = gather (fun c => gather f (k c)) l := by
  induction l with
  | nil => rfl
  | cons c l ih => rw [List.flatMap_cons, gather_append, gather_cons, ih]

/-- What respects concatenation can be done at each member. -/
theorem map_gather {k : List β → List γ} (hnil : k [] = [])
    (happend : ∀ us vs, k (us ++ vs) = k us ++ k vs) (f : α → Except ε (List β)) (l : List α) :
    (gather f l).map k = gather (fun a => (f a).map k) l := by
  induction l with
  | nil => exact congrArg Except.ok hnil
  | cons a l ih =>
    rw [gather_cons, gather_cons, ← ih]
    cases f a <;> cases gather f l <;>
      simp [Functor.map, Seq.seq, Except.map, Except.bind, happend]

theorem mem_gather_iff (h : gather f l = .ok bs) {b : β} :
    b ∈ bs ↔ ∃ a ∈ l, ∃ us, f a = .ok us ∧ b ∈ us := by
  obtain ⟨parts, hparts, rfl⟩ := map_eq_ok_iff.mp h
  rw [List.mem_flatten]
  constructor
  · rintro ⟨us, hus, hb⟩
    obtain ⟨a, ha, hfa⟩ := (mem_of_mapM_eq_ok hparts).mp hus
    exact ⟨a, ha, us, hfa, hb⟩
  · rintro ⟨a, ha, us, hfa, hb⟩
    exact ⟨us, (mem_of_mapM_eq_ok hparts).mpr ⟨a, ha, hfa⟩, hb⟩

/-- If each member of a list finds its own kind, what is found of a kind was found there. -/
theorem eq_ok_filter_of_gather [DecidableEq α] (kind : β → α)
    (hkind : ∀ a us, f a = .ok us → ∀ b ∈ us, kind b = a) (hn : l.Nodup)
    (hl : gather f l = .ok bs) {a : α} (ha : a ∈ l) : f a = .ok (bs.filter (kind · == a)) := by
  induction l generalizing bs with
  | nil => cases ha
  | cons c l ih =>
    obtain ⟨hc, hn⟩ := List.nodup_cons.mp hn
    rw [gather_cons, append_eq_ok_iff] at hl
    obtain ⟨us, vs, hus, hvs, rfl⟩ := hl
    rw [List.filter_append]
    rcases List.mem_cons.mp ha with rfl | ha
    · have hown : us.filter (kind · == a) = us :=
        List.filter_eq_self.mpr fun b hb => beq_iff_eq.mpr (hkind a us hus b hb)
      have hother : vs.filter (kind · == a) = [] := by
        refine List.filter_eq_nil_iff.mpr fun b hb => ?_
        obtain ⟨d, hd, ws, hws, hb⟩ := (mem_gather_iff hvs).mp hb
        rw [hkind d ws hws b hb, beq_iff_eq]
        exact fun he => hc (he ▸ hd)
      rw [hown, hother, List.append_nil, hus]
    · have hother : us.filter (kind · == a) = [] := by
        refine List.filter_eq_nil_iff.mpr fun b hb => ?_
        rw [hkind c us hus b hb, beq_iff_eq]
        exact fun he => hc (he ▸ ha)
      rw [hother, List.nil_append, ih hn hvs ha]

/-- Findings that cannot fail are listed one after the other. -/
theorem gather_ok (k : α → List β) (l : List α) :
    gather (fun a => (.ok (k a) : Except ε (List β))) l = .ok (l.flatMap k) := by
  induction l with
  | nil => rfl
  | cons a l ih =>
    rw [gather_cons, ih]
    rfl

theorem mapM_eq_gather (k : α → Except ε β) (l : List α) :
    l.mapM k = gather (fun a => (k a).map fun b => [b]) l := by
  induction l with
  | nil => rfl
  | cons a l ih =>
    rw [List.mapM_cons, gather_cons, ih]
    cases k a <;> cases gather (fun a => (k a).map fun b => [b]) l <;> rfl

theorem mapM_filterMap (k : α → Except ε β) (c : γ → Option α) (l : List γ) :
    (l.filterMap c).mapM k = gather (fun a => (c a).toList.mapM k) l := by
  rw [mapM_eq_gather, List.filterMap_eq_flatMap_toList, gather_flatMap]
  simp only [mapM_eq_gather]

theorem map_filterMap_mapM (k : α → Except ε (Option β)) (l : List α) :
    (l.mapM k).map (fun found : List (Option β) => found.filterMap id) =
      gather (fun a => (k a).map Option.toList) l := by
  induction l with
  | nil => rfl
  | cons a l ih =>
    rw [List.mapM_cons, gather_cons, ← ih]
    cases k a with
    | error => rfl
    | ok o => cases l.mapM k <;> cases o <;> rfl

theorem gather_perm (h : l.Perm l') (hl : gather f l = .ok bs) :
    ∃ cs, gather f l' = .ok cs ∧ bs.Perm cs := by
  induction h generalizing bs with
  | nil => exact ⟨bs, hl, .refl bs⟩
  | cons a _ ih =>
    rw [gather_cons, append_eq_ok_iff] at hl
    obtain ⟨us, vs, ha, hvs, rfl⟩ := hl
    obtain ⟨ws, hws, hp⟩ := ih hvs
    exact ⟨us ++ ws, by rw [gather_cons, ha, hws]; rfl, hp.append_left us⟩
  | swap a b l =>
    rw [gather_cons, gather_cons, append_eq_ok_iff] at hl
    obtain ⟨us, vs, hb, hvs, rfl⟩ := hl
    obtain ⟨ws, xs, ha, hxs, rfl⟩ := append_eq_ok_iff.mp hvs
    refine ⟨ws ++ (us ++ xs), by rw [gather_cons, gather_cons, ha, hb, hxs]; rfl, ?_⟩
    exact List.perm_append_comm_assoc us ws xs
  | trans _ _ ih ih' =>
    obtain ⟨cs, hcs, hp⟩ := ih hl
    obtain ⟨ds, hds, hp'⟩ := ih' hcs
    exact ⟨ds, hds, hp.trans hp'⟩

/-- If at each member as much of each kind is found, so it is altogether. -/
theorem exists_gather_map_perm {δ : Type} {kind : β → δ}
    (h : ∀ a ∈ l, ∀ us, f a = .ok us →
      ∃ vs, g a = .ok vs ∧ (us.map kind).Perm (vs.map kind)) (hl : gather f l = .ok bs) :
    ∃ cs, gather g l = .ok cs ∧ (bs.map kind).Perm (cs.map kind) := by
  induction l generalizing bs with
  | nil =>
    obtain rfl := Except.ok.inj hl
    exact ⟨[], rfl, .nil⟩
  | cons a l ih =>
    obtain ⟨ha, hrest⟩ := List.forall_mem_cons.mp h
    rw [gather_cons, append_eq_ok_iff] at hl
    obtain ⟨us, us', hus, hus', rfl⟩ := hl
    obtain ⟨vs, hvs, hp⟩ := ha us hus
    obtain ⟨vs', hvs', hp'⟩ := ih hrest hus'
    refine ⟨vs ++ vs', by rw [gather_cons, hvs, hvs']; rfl, ?_⟩
    rw [List.map_append, List.map_append]
    exact hp.append hp'

/-- If at each member as much of one kind is found, so it is altogether. -/
theorem countP_eq_of_gather {p : β → Bool} {cs : List β}
    (h : ∀ a ∈ l, ∀ us vs, f a = .ok us → g a = .ok vs → us.countP p = vs.countP p)
    (hf : gather f l = .ok bs) (hg : gather g l = .ok cs) : bs.countP p = cs.countP p := by
  induction l generalizing bs cs with
  | nil =>
    obtain rfl := Except.ok.inj hf
    obtain rfl := Except.ok.inj hg
    rfl
  | cons a l ih =>
    obtain ⟨ha, hrest⟩ := List.forall_mem_cons.mp h
    rw [gather_cons, append_eq_ok_iff] at hf hg
    obtain ⟨us, us', hus, hus', rfl⟩ := hf
    obtain ⟨vs, vs', hvs, hvs', rfl⟩ := hg
    rw [List.countP_append, List.countP_append, ha us vs hus hvs, ih hrest hus' hvs']

end DesignRules.Outcome
