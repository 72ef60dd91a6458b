import DesignRules.Checks.Context
import DesignRules.Proofs.Distinct
import Mathlib.Data.List.Nodup

/-! # Grouping

Values grouped by a key. A group holds all values with its key and is never empty.
-/

namespace DesignRules

variable {α κ : Type} [BEq κ] [LawfulBEq κ] {key : α → κ} {values vs : List α} {k : κ}

theorem mem_groupBy_iff : (k, vs) ∈ groupBy key values ↔
    k ∈ values.map key ∧ vs = values.filter (key · == k) := by
  simp only [groupBy, List.mem_map, List.mem_eraseDups, Prod.mk.injEq]
  constructor
  · rintro ⟨_, hk, rfl, rfl⟩
    exact ⟨hk, rfl⟩
  · rintro ⟨hk, rfl⟩
    exact ⟨k, hk, rfl, rfl⟩

theorem length_of_mem_groupBy (h : (k, vs) ∈ groupBy key values) :
    vs.length = (values.map key).count k := by
  obtain ⟨_, rfl⟩ := mem_groupBy_iff.mp h
  rw [List.count, List.countP_map, List.countP_eq_length_filter]
  rfl

/-- Lists without a common key have separate groups. -/
theorem groupBy_append {values' : List α} (h : ∀ a ∈ values, ∀ b ∈ values', key a ≠ key b) :
    groupBy key (values ++ values') = groupBy key values ++ groupBy key values' := by
  have hkeys : ∀ k ∈ values'.map key, k ∉ values.map key := by
    simpa using fun b hb a ha => h a ha b hb
  rw [groupBy, List.map_append, eraseDups_append_of_disjoint hkeys, List.map_append]
  refine congrArg₂ (· ++ ·) (List.map_congr_left fun k hk => ?_) (List.map_congr_left fun k hk => ?_)
  · obtain ⟨a, ha, rfl⟩ := List.mem_map.mp (List.mem_eraseDups.mp hk)
    have hnil : values'.filter (key · == key a) = [] :=
      List.filter_eq_nil_iff.mpr fun b hb => by simpa using (h a ha b hb).symm
    rw [List.filter_append, hnil, List.append_nil]
  · obtain ⟨b, hb, rfl⟩ := List.mem_map.mp (List.mem_eraseDups.mp hk)
    have hnil : values.filter (key · == key b) = [] :=
      List.filter_eq_nil_iff.mpr fun a ha => by simpa using h a ha b hb
    rw [List.filter_append, hnil, List.nil_append]

omit [LawfulBEq κ] in
theorem groupBy_congr {key' : α → κ} (h : ∀ a ∈ values, key a = key' a) :
    groupBy key values = groupBy key' values := by
  rw [groupBy, groupBy, List.map_congr_left h]
  apply List.map_congr_left
  intro k _
  exact congrArg (k, ·) (List.filter_congr fun a ha => by rw [h a ha])

/-- Grouping does not depend on what the keys are. -/
theorem groupBy_map {β ν : Type} [BEq ν] [LawfulBEq ν] (key : α → κ) (key' : β → ν)
    {f : α → β} {g : κ → ν} (hg : Function.Injective g) (hkey : ∀ a, key' (f a) = g (key a)) :
    groupBy key' (values.map f) =
      (groupBy key values).map fun group => (g group.1, group.2.map f) := by
  have hkeys : (values.map f).map key' = (values.map key).map g := by
    rw [List.map_map, List.map_map]
    exact List.map_congr_left fun a _ => hkey a
  rw [groupBy, hkeys, eraseDups_map hg, List.map_map, groupBy, List.map_map]
  simp only [Function.comp_def, List.filter_map, hkey, hg.beq_eq]

/-- In another order there are as many groups with a property that the order within them does
not touch. -/
theorem countP_groupBy_of_perm {values' : List α} {p q : κ → List α → Bool}
    (h : values.Perm values')
    (hp : ∀ k, p k (values.filter (key · == k)) = q k (values'.filter (key · == k))) :
    (groupBy key values).countP (fun group => p group.1 group.2) =
      (groupBy key values').countP fun group => q group.1 group.2 := by
  rw [groupBy, groupBy, List.countP_map, List.countP_map, (eraseDups_perm (h.map key)).countP_eq]
  refine List.countP_congr fun k _ => ?_
  simp only [Function.comp_apply, hp k]

theorem countP_several_eq : (groupBy key values).countP (fun group => decide (1 < group.2.length)) =
    (values.map key).eraseDups.countP fun k => decide (1 < (values.map key).count k) := by
  rw [groupBy, List.countP_map]
  refine List.countP_congr fun k hk => ?_
  have hgroup := mem_groupBy_iff.mpr ⟨List.mem_eraseDups.mp hk, rfl⟩
  simp only [Function.comp_apply, length_of_mem_groupBy hgroup]

/-- As many keys have several values if the keys are the same up to their order. -/
theorem countP_several_of_perm {β : Type} {key' : β → κ} {values' : List β}
    (h : (values.map key).Perm (values'.map key')) :
    (groupBy key values).countP (fun group => decide (1 < group.2.length)) =
      (groupBy key' values').countP fun group => decide (1 < group.2.length) := by
  rw [countP_several_eq, countP_several_eq, (eraseDups_perm h).countP_eq]
  simp only [h.count_eq]

/-- No group has two members exactly if no key occurs twice. -/
theorem forall_groupBy_length_le_one_iff :
    (∀ group ∈ groupBy key values, group.2.length ≤ 1) ↔ (values.map key).Nodup := by
  rw [List.nodup_iff_count_le_one]
  constructor
  · intro h k
    by_cases hk : k ∈ values.map key
    · have hmem := mem_groupBy_iff.mpr ⟨hk, rfl⟩
      exact length_of_mem_groupBy hmem ▸ h _ hmem
    · simp [List.count_eq_zero_of_not_mem hk]
  · rintro h ⟨k, vs⟩ hmem
    exact length_of_mem_groupBy hmem ▸ h k

theorem forall_mem_groupBy_iff {p : κ → List α → Prop} :
    (∀ group ∈ groupBy key values, p group.1 group.2) ↔
      ∀ a ∈ values, p (key a) (values.filter (key · == key a)) := by
  simp only [groupBy, List.forall_mem_map, List.mem_eraseDups]

theorem length_eraseDups_le_one_iff {l : List κ} :
    l.eraseDups.length ≤ 1 ↔ ∀ a ∈ l, ∀ b ∈ l, a = b := by
  have hmem : ∀ a, a ∈ l.eraseDups ↔ a ∈ l := fun a => List.mem_eraseDups
  have hn := nodup_eraseDups l
  constructor
  · intro h a ha b hb
    rw [← hmem] at ha hb
    obtain ⟨i, hi, rfl⟩ := List.getElem_of_mem ha
    obtain ⟨j, hj, rfl⟩ := List.getElem_of_mem hb
    obtain rfl : i = j := by omega
    rfl
  · intro h
    cases he : l.eraseDups with
    | nil => simp
    | cons a rest =>
      cases rest with
      | nil => simp
      | cons b rest =>
        have hab := h a ((hmem a).mp (by simp [he])) b ((hmem b).mp (by simp [he]))
        simp [he, hab] at hn

/-! ## All keys -/

theorem flatMap_single {β : Type} {keys : List κ} (hn : keys.Nodup) (hk : k ∈ keys) (b : β) :
    (keys.flatMap fun l => if k == l then [b] else []) = [b] := by
  have hfilter : keys.filter (· == k) = [k] := by
    rw [List.filter_beq, List.count_eq_one_of_mem hn hk, List.replicate_one]
  have hmap (l : List κ) : (l.flatMap fun l => if k == l then [b] else []) =
      (l.filter (· == k)).map fun _ => b := by
    induction l with
    | nil => rfl
    | cons l rest ih =>
      rw [List.flatMap_cons, ih, List.filter_cons, BEq.comm]
      split <;> rfl
  rw [hmap, hfilter, List.map_singleton]

/-- Each value stands once among the groups of all keys. -/
theorem flatMap_filter_perm {keys : List κ} (hn : keys.Nodup) (hkeys : ∀ a ∈ values, key a ∈ keys) :
    (keys.flatMap fun k => values.filter (key · == k)).Perm values := by
  induction values with
  | nil => simp
  | cons a values ih =>
    obtain ⟨ha, hvalues⟩ := List.forall_mem_cons.mp hkeys
    have hcons (k : κ) : (a :: values).filter (key · == k) =
        (if key a == k then [a] else []) ++ values.filter (key · == k) := by
      rw [List.filter_cons]
      split <;> rfl
    simp only [hcons]
    refine (List.flatMap_append_perm keys _ _).symm.trans ?_
    rw [flatMap_single hn ha]
    exact (ih hvalues).cons a

/-- Sorting by a rank of the keys leaves the values of each key in their order. -/
theorem filter_mergeSort (rank : κ → ℕ) (k : κ) :
    (values.mergeSort fun a b => decide (rank (key a) ≤ rank (key b))).filter (key · == k) =
      values.filter (key · == k) := by
  have hsorted : (values.filter (key · == k)).Pairwise
      fun a b => decide (rank (key a) ≤ rank (key b)) = true := by
    apply List.pairwise_of_forall_mem_list
    intro a ha b hb
    have hak : key a = k := by simpa using List.of_mem_filter ha
    have hbk : key b = k := by simpa using List.of_mem_filter hb
    rw [decide_eq_true_eq, hak, hbk]
  have hsub := List.sublist_mergeSort (fun a b c => by simpa using Nat.le_trans)
    (fun a b => by simpa using Nat.le_total _ _) hsorted List.filter_sublist
  have hfilter := hsub.filter (key · == k)
  simp only [List.filter_filter, Bool.and_self] at hfilter
  exact (hfilter.eq_of_length ((List.mergeSort_perm _ _).filter _).length_eq.symm).symm

end DesignRules
