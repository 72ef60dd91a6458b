import DesignRules.Proofs.Checks.Reports
import Mathlib.Data.Int.Notation

/-! # The address map

The ranges of all node entries can be listed unless a size is too long to be read. Ranges
overlap exactly if they have an address in common.
-/

namespace DesignRules

/-- No run of digits of a size is too long to be read. -/
def Address.IsReadable (space : String) : Prop :=
  ∀ t, parts? (Text.upper (Text.trim space)).toList = some t → ¬ t.isTooLong

/-- The size can be read, or the base is no address and the size does not matter. -/
def Node.IsReadable (n : Node) : Prop :=
  ∀ base space first, filled n.addressBase = some base → filled n.addressSpace = some space →
    Address.ofText? base = some first → 0 ≤ first → Address.IsReadable space

/-- An address that belongs to the range of a node entry. -/
def Diagram.Occupies (d : Diagram) (n : Node) (address : ℤ) : Prop :=
  ∃ r, d.occupied n = .range r ∧ r.base ≤ address ∧ address ≤ r.last

def Occupied.range? : Occupied → Option AddressRange
  | .range r => some r
  | _ => none

namespace AddressRange

variable {r : AddressRange} {first last : ℤ}

/-- Some address of the range lies between two addresses, these included. -/
def Meets (r : AddressRange) (first last : ℤ) : Prop :=
  ∃ address, (r.base ≤ address ∧ address ≤ r.last) ∧ first ≤ address ∧ address ≤ last

theorem meets_iff :
    r.Meets first last ↔ (r.base ≤ r.last ∧ first ≤ last) ∧ r.base ≤ last ∧ first ≤ r.last := by
  constructor
  · rintro ⟨address, ⟨hbase, hlast⟩, hfirst, hend⟩
    omega
  · rintro ⟨⟨hrange, hbounds⟩, hbase, hfirst⟩
    refine ⟨max r.base first, ?_⟩
    omega

instance : Decidable (r.Meets first last) := decidable_of_iff _ meets_iff.symm

theorem overlaps_iff_le : r.overlaps first last ↔ r.base ≤ last ∧ first ≤ r.last := by
  rw [overlaps, Bool.not_eq_true', Bool.or_eq_false_iff, decide_eq_false_iff_not,
    decide_eq_false_iff_not, Int.not_lt, Int.not_lt, and_comm]

theorem base_le_last (h : 0 < r.size) : r.base ≤ r.last := by
  unfold last
  omega

end AddressRange

namespace Checks

open Check Outcome

variable {ctx : Context} {vs : List Violation}

theorem range?_eq_some_iff {o : Occupied} {r : AddressRange} :
    o.range? = some r ↔ o = .range r := by
  cases o <;> simp [Occupied.range?]

theorem rangesOf_eq_ok_iff {os : List Occupied} {rs : List AddressRange} :
    rangesOf os = .ok rs ↔ (∀ o ∈ os, o ≠ .oversized) ∧ os.filterMap Occupied.range? = rs := by
  induction os generalizing rs with
  | nil => simp [rangesOf]
  | cons o os ih =>
    rw [List.forall_mem_cons]
    cases o with
    | nothing =>
      rw [rangesOf, ih, List.filterMap_cons_none rfl]
      simp
    | range r =>
      rw [rangesOf, map_eq_ok_iff, List.filterMap_cons_some (f := Occupied.range?) rfl]
      simp only [ih]
      grind
    | oversized => simp [rangesOf]

theorem parseSize?_eq_none_iff {space : String} :
    Address.parseSize? space = none ↔ ¬ Address.IsReadable space := by
  unfold Address.parseSize? Address.IsReadable
  split <;> simp_all

theorem ofTexts_eq_oversized_iff {node label base space : String} :
    Occupied.ofTexts node label base space = .oversized ↔
      ∃ first, Address.ofText? base = some first ∧ 0 ≤ first ∧ ¬ Address.IsReadable space := by
  rw [← parseSize?_eq_none_iff]
  unfold Occupied.ofTexts
  cases Address.ofText? base with
  | none => simp
  | some first =>
    by_cases hneg : first < 0
    · simp [hneg, Int.not_le.mpr hneg]
    · cases Address.parseSize? space with
      | none => simp [hneg, Int.not_lt.mp hneg]
      | some size => cases size <;> simp [hneg]

theorem occupied_eq_oversized_iff {d : Diagram} {n : Node} :
    d.occupied n = .oversized ↔ ¬ n.IsReadable := by
  unfold Diagram.occupied Node.IsReadable
  cases filled n.addressBase <;> cases filled n.addressSpace <;> simp [ofTexts_eq_oversized_iff]

theorem exists_addressRanges_iff : (∃ rs, addressRanges ctx = .ok rs) ↔
    ∀ n ∈ ctx.diagram.nodes, n.IsReadable := by
  simp only [addressRanges, rangesOf_eq_ok_iff, List.forall_mem_map, exists_and_left,
    exists_eq', and_true, ne_eq, occupied_eq_oversized_iff, not_not]

theorem forall_mem_pairs_iff {α : Type} {r : α → α → Prop} {l : List α} :
    (∀ p ∈ pairs l, r p.1 p.2) ↔ l.Pairwise r := by
  induction l with
  | nil => simp [pairs]
  | cons a l ih =>
    rw [pairs, List.forall_mem_append, List.forall_mem_map, List.pairwise_cons, ih]

/-- In another order as many pairs are related, if the relation is symmetric. -/
theorem countP_pairs_of_perm {α : Type} {r : α → α → Bool} {l l' : List α}
    (hr : ∀ a b, r a b = r b a) (h : l.Perm l') :
    (pairs l).countP (fun p => r p.1 p.2) = (pairs l').countP fun p => r p.1 p.2 := by
  have hcons : ∀ a (l : List α), (pairs (a :: l)).countP (fun p => r p.1 p.2) =
      l.countP (r a) + (pairs l).countP fun p => r p.1 p.2 := by
    intro a l
    rw [pairs, List.countP_append, List.countP_map]
    rfl
  induction h with
  | nil => rfl
  | cons a hl ih => rw [hcons, hcons, hl.countP_eq, ih]
  | swap a b l =>
    rw [hcons, hcons, hcons, hcons, List.countP_cons, List.countP_cons, hr a b]
    omega
  | trans _ _ ih ih' => exact ih.trans ih'

theorem overlaps_comm (a b : AddressRange) :
    a.overlaps b.base b.last = b.overlaps a.base a.last := by
  rw [AddressRange.overlaps, AddressRange.overlaps, Bool.or_comm]

theorem ofTexts_eq_range_iff {node label base space : String} {r : AddressRange} :
    Occupied.ofTexts node label base space = .range r ↔
      (r.node = node ∧ r.label = label ∧ r.space = space) ∧
        (Address.ofText? base = some r.base ∧ 0 ≤ r.base) ∧
          ∃ bytes : ℕ, Address.parseSize? space = some bytes ∧ r.size = bytes ∧ 0 < r.size := by
  unfold Occupied.ofTexts
  constructor
  · intro h
    split at h
    case h_1 => cases h
    case h_2 first hfirst =>
      split at h
      case isTrue => cases h
      case isFalse hneg =>
        split at h <;> cases h
        case h_3 bytes hne hbytes =>
          have hpos : 0 < (bytes : ℤ) := Int.natCast_pos.mpr (Nat.pos_of_ne_zero hne)
          exact ⟨⟨rfl, rfl, rfl⟩, ⟨hfirst, Int.not_lt.mp hneg⟩, bytes, hbytes, rfl, hpos⟩
  · rintro ⟨⟨rfl, rfl, rfl⟩, ⟨hfirst, hneg⟩, bytes, hbytes, hsize, hpos⟩
    obtain ⟨node, label, first, size, space⟩ := r
    obtain rfl : size = bytes := hsize
    have hne : bytes ≠ 0 := by
      rintro rfl
      exact absurd hpos (by simp)
    rw [hfirst]
    simp only [if_neg (Int.not_lt.mpr hneg), hbytes]

theorem occupied_eq_range_iff_ofTexts {d : Diagram} {n : Node} {r : AddressRange} :
    d.occupied n = .range r ↔ ∃ base space, filled n.addressBase = some base ∧
      filled n.addressSpace = some space ∧
        Occupied.ofTexts n.id (d.label n.id) base space = .range r := by
  unfold Diagram.occupied
  cases filled n.addressBase <;> cases filled n.addressSpace <;> simp

theorem size_pos_of_occupied {d : Diagram} {n : Node} {r : AddressRange}
    (h : d.occupied n = .range r) : 0 < r.size := by
  obtain ⟨base, space, -, -, h⟩ := occupied_eq_range_iff_ofTexts.mp h
  obtain ⟨-, -, bytes, -, -, hpos⟩ := ofTexts_eq_range_iff.mp h
  exact hpos

/-- Ranges that are not empty overlap exactly if they share an address. -/
theorem overlaps_iff {a b : AddressRange} (ha : 0 < a.size) (hb : 0 < b.size) :
    a.overlaps b.base b.last ↔
      ∃ x, (a.base ≤ x ∧ x ≤ a.last) ∧ b.base ≤ x ∧ x ≤ b.last := by
  rw [AddressRange.overlaps_iff_le]
  constructor
  · intro h
    exact AddressRange.meets_iff.mpr ⟨⟨a.base_le_last ha, b.base_le_last hb⟩, h⟩
  · intro h
    exact (AddressRange.meets_iff.mp h).2

theorem forall_not_overlaps_iff {d : Diagram} {m n : Node} :
    (∀ a, d.occupied m = .range a → ∀ b, d.occupied n = .range b → ¬ a.overlaps b.base b.last) ↔
      ∀ address, ¬ (d.Occupies m address ∧ d.Occupies n address) := by
  constructor
  · rintro h x ⟨⟨a, ha, hax⟩, b, hb, hbx⟩
    refine h a ha b hb ((overlaps_iff ?_ ?_).mpr ⟨x, hax, hbx⟩)
    · exact size_pos_of_occupied ha
    · exact size_pos_of_occupied hb
  · intro h a ha b hb ho
    obtain ⟨x, hax, hbx⟩ :=
      (overlaps_iff (size_pos_of_occupied ha) (size_pos_of_occupied hb)).mp ho
    exact h x ⟨⟨a, ha, hax⟩, b, hb, hbx⟩

theorem clean_addressOverlap_iff (h : addressOverlap ctx = .ok vs) :
    Check.Clean addressOverlap ctx ↔ ctx.diagram.nodes.Pairwise fun m n =>
      ∀ address, ¬ (ctx.diagram.Occupies m address ∧ ctx.diagram.Occupies n address) := by
  obtain ⟨rs, hrs, rfl⟩ := map_eq_ok_iff.mp h
  obtain ⟨-, rfl⟩ := rangesOf_eq_ok_iff.mp hrs
  rw [clean_iff_eq_nil reportsOnly_addressOverlap h rfl (by decide), List.map_eq_nil_iff,
    List.filter_eq_nil_iff, List.filterMap_map]
  refine (forall_mem_pairs_iff
    (r := fun a b : AddressRange => ¬ a.overlaps b.base b.last)).trans ?_
  rw [List.pairwise_filterMap]
  simp only [Function.comp_apply, range?_eq_some_iff, forall_not_overlaps_iff]

end Checks

end DesignRules
