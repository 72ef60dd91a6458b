import DesignRules.Proofs.Checks.AddressRanges

/-! # Reserved ranges

Every range that has an address in common with a reserved one is reported. The bounds of a reserved
range may be reversed, so that no address lies between them. Such a range is reported as well where
both of its bounds lie inside the range of a component.
-/

namespace DesignRules

/-- The bounds of a reserved range are reversed, and both lie in the range of a component. -/
def AddressRange.Straddles (r : AddressRange) (reserved : ReservedRange) : Prop :=
  reserved.last < reserved.first ∧ r.base ≤ reserved.last ∧ reserved.first ≤ r.last

instance (r : AddressRange) (reserved : ReservedRange) : Decidable (r.Straddles reserved) :=
  inferInstanceAs (Decidable (_ ∧ _))

theorem AddressRange.not_meets_of_straddles {r : AddressRange} {reserved : ReservedRange}
    (h : r.Straddles reserved) : ¬ r.Meets reserved.first reserved.last := by
  rintro ⟨address, -, hfirst, hlast⟩
  have hreversed := h.1
  omega

theorem AddressRange.overlaps_iff_meets_or {r : AddressRange} {reserved : ReservedRange}
    (h : 0 < r.size) : r.overlaps reserved.first reserved.last ↔
      r.Meets reserved.first reserved.last ∨ r.Straddles reserved := by
  have hrange := r.base_le_last h
  rw [overlaps_iff_le, meets_iff, Straddles]
  constructor
  · rintro ⟨hbase, hlast⟩
    by_cases hbounds : reserved.first ≤ reserved.last
    · exact .inl ⟨⟨hrange, hbounds⟩, hbase, hlast⟩
    · exact .inr ⟨Int.not_le.mp hbounds, hbase, hlast⟩
  · rintro (⟨-, h⟩ | ⟨-, h⟩) <;> exact h

namespace Checks

open Outcome

variable {ctx : Context} {rs : List AddressRange}

/-- The violation reports that a range uses a reserved one and gives the bounds of the latter. -/
structure ReportsReserved (v : Violation) (r : AddressRange) (reserved : ReservedRange) :
    Prop where
  ruleId : v.ruleId = Rule.reservedAddress.code
  components : v.affectedComponents = some [r.node]
  name : v.detail? ["reservedRange"] = some (.text reserved.name)
  first : v.GivesAddress ["reservedStart"] reserved.first
  last : v.GivesAddress ["reservedEnd"] reserved.last

theorem reportsReserved_reservedUse (r : AddressRange) (reserved : ReservedRange) :
    ReportsReserved (reservedUse r reserved) r reserved where
  ruleId := rfl
  components := rfl
  name := rfl
  first := Violation.givesAddress_of_hex rfl
  last := Violation.givesAddress_of_hex rfl

/-- The violations report exactly the uses of reserved ranges, each once, range by range and for
each in the order of the reserved ranges. -/
def ListsUses (uses : AddressRange → ReservedRange → Prop) [∀ r z, Decidable (uses r z)]
    (rs : List AddressRange) (reserved : List ReservedRange) (vs : List Violation) : Prop :=
  List.Forall₂ (fun v p => ReportsReserved v p.1 p.2) vs
    ((rs ×ˢ reserved).filter fun p => uses p.1 p.2)

/-- Two descriptions of what is listed, one stronger than the other, are about the same uses. -/
theorem ListsUses.of_imp {uses uses' : AddressRange → ReservedRange → Prop}
    [∀ r z, Decidable (uses r z)] [∀ r z, Decidable (uses' r z)] {reserved : List ReservedRange}
    {vs : List Violation} (himp : ∀ r z, uses r z → uses' r z) (h : ListsUses uses rs reserved vs)
    (h' : ListsUses uses' rs reserved vs) {r : AddressRange} (hr : r ∈ rs) {z : ReservedRange}
    (hz : z ∈ reserved) (hused : uses' r z) : uses r z := by
  have hweaker : ∀ p : AddressRange × ReservedRange,
      decide (uses p.1 p.2) → decide (uses' p.1 p.2) := fun p hp =>
    decide_eq_true (himp p.1 p.2 (of_decide_eq_true hp))
  have hlength := h.length_eq.symm.trans h'.length_eq
  have hmem : (r, z) ∈ rs ×ˢ reserved := List.mem_product.mpr ⟨hr, hz⟩
  exact of_decide_eq_true
    (forall_mem_of_length_filter_eq hweaker hlength (r, z) hmem (decide_eq_true hused))

/-- Exactly the ranges that share an address with a reserved range or straddle it are reported.
These are the ranges that share an address with a reserved one exactly if no range straddles a
reserved one, as none does whose bounds are in order. -/
theorem reservedAddress_exact (h : addressRanges ctx = .ok rs) :
    List.Forall₂ (fun r n => ctx.diagram.Assigns n r) rs
      (ctx.diagram.nodes.filter fun n => ∃ r, ctx.diagram.Assigns n r) ∧
    ∃ vs, reservedAddress ctx = .ok vs ∧
      ListsUses (fun r z => r.Meets z.first z.last ∨ r.Straddles z) rs
        ctx.settings.reservedRanges vs ∧
      (ListsUses (fun r z => r.Meets z.first z.last) rs ctx.settings.reservedRanges vs ↔
        ∀ r ∈ rs, ∀ z ∈ ctx.settings.reservedRanges, ¬ r.Straddles z) := by
  have hreports : reservedAddress ctx = .ok (((rs ×ˢ ctx.settings.reservedRanges).filter fun p =>
      p.1.overlaps p.2.first p.2.last).map fun p => reservedUse p.1 p.2) := by
    rw [reservedAddress, h]
    exact congrArg Except.ok (flatMap_map_filter reservedUse
      (fun r z => r.overlaps z.first z.last) rs ctx.settings.reservedRanges)
  have hoverlaps : ∀ p ∈ rs ×ˢ ctx.settings.reservedRanges, p.1.overlaps p.2.first p.2.last ↔
      p.1.Meets p.2.first p.2.last ∨ p.1.Straddles p.2 := fun p hp =>
    AddressRange.overlaps_iff_meets_or (size_pos_of_mem h (List.mem_product.mp hp).1)
  have hlists : ListsUses (fun r z => r.Meets z.first z.last ∨ r.Straddles z) rs
      ctx.settings.reservedRanges _ :=
    forall₂_map_filter hoverlaps fun p => reportsReserved_reservedUse p.1 p.2
  refine ⟨forall₂_addressRanges h, _, hreports, hlists, ?_⟩
  constructor
  · -- the same violations under both descriptions: as many uses, so the same ones
    intro hmeets r hr z hz hstraddles
    have hmeet := hmeets.of_imp (fun _ _ => .inl) hlists hr hz (.inr hstraddles)
    exact AddressRange.not_meets_of_straddles hstraddles hmeet
  · intro hnone
    refine forall₂_map_filter (fun p hp => ?_) fun p => reportsReserved_reservedUse p.1 p.2
    obtain ⟨hr, hz⟩ := List.mem_product.mp hp
    rw [hoverlaps p hp, or_iff_left (hnone p.1 hr p.2 hz)]

/-- A boot memory that starts at zero and a memory that begins where the first default reserved
range ends, with given reserved ranges. -/
def bootMap (reserved : List ReservedRange) : Context where
  design :=
    { diagram :=
        { nodes :=
            [⟨"boot", "Boot", none, none, none, some "0x0", some "4KB", none, []⟩,
             ⟨"ram", "RAM", none, none, none, some "0xFFFFF", some "2", none, []⟩]
          edges := [] }
      library := [] }
  options := ⟨false⟩
  settings := { Settings.default with reservedRanges := reserved }
  arbiter := none

/-- Reserved ranges whose bounds are in order, one of them partly below zero. -/
def orderly : List ReservedRange := [⟨"Boot ROM", 0, 0xfffff⟩, ⟨"Low", -16, 0⟩]

/-- The shared addresses are reported, down to a single one at either end of a range. -/
theorem listsUses_orderly : ∃ rs vs, addressRanges (bootMap orderly) = .ok rs ∧
    reservedAddress (bootMap orderly) = .ok vs ∧
    vs.map (fun v => (v.affectedComponents, v.detail? ["reservedRange"] |>.bind Datum.display?)) =
      [(some ["boot"], some "Boot ROM"), (some ["boot"], some "Low"),
       (some ["ram"], some "Boot ROM")] ∧
    ListsUses (fun r z => r.Meets z.first z.last) rs orderly vs := by
  have hranges : (addressRanges (bootMap orderly)).map (fun _ => ()) = .ok () := by
    decide +kernel
  have hreported : (reservedAddress (bootMap orderly)).map (List.map fun v =>
      (v.affectedComponents, v.detail? ["reservedRange"] |>.bind Datum.display?)) =
        .ok [(some ["boot"], some "Boot ROM"), (some ["boot"], some "Low"),
          (some ["ram"], some "Boot ROM")] := by
    decide +kernel
  have hordered : ∀ z ∈ orderly, z.first ≤ z.last := by decide
  obtain ⟨rs, hrs, -⟩ := map_eq_ok_iff.mp hranges
  obtain ⟨-, vs, hvs, -, hmeets⟩ := reservedAddress_exact hrs
  rw [hvs] at hreported
  refine ⟨rs, vs, hrs, hvs, Except.ok.inj hreported, hmeets.mpr fun r _ z hz hstraddles => ?_⟩
  exact Int.not_le.mpr hstraddles.1 (hordered z hz)

/-- A reserved range that is accepted with its bounds reversed. -/
def reversedGap : ReservedRange := ⟨"Gap", 0x800, 0x400⟩

/-- No address lies between the bounds of the gap. The boot memory is reported to use it. -/
theorem reservedAddress_reversedGap :
    ReservedRange.read (.object
      [("name", .text "Gap"), ("start", .text "0x800"), ("end", .text "0x400")]) =
        .valid reversedGap ∧
    ∃ rs vs, addressRanges (bootMap [reversedGap]) = .ok rs ∧
      reservedAddress (bootMap [reversedGap]) = .ok vs ∧
      vs.map (·.affectedComponents) = [some ["boot"]] ∧
      ∀ r ∈ rs, ¬ r.Meets reversedGap.first reversedGap.last := by
  have hread : ReservedRange.read (.object
      [("name", .text "Gap"), ("start", .text "0x800"), ("end", .text "0x400")]) =
        .valid reversedGap := by
    decide +kernel
  have hranges : (addressRanges (bootMap [reversedGap])).map (fun _ => ()) = .ok () := by
    decide +kernel
  have hreported : (reservedAddress (bootMap [reversedGap])).map
      (List.map (·.affectedComponents)) = .ok [some ["boot"]] := by
    decide +kernel
  obtain ⟨rs, hrs, -⟩ := map_eq_ok_iff.mp hranges
  obtain ⟨vs, hvs, hcomponents⟩ := map_eq_ok_iff.mp hreported
  refine ⟨hread, rs, vs, hrs, hvs, hcomponents, ?_⟩
  rintro r - ⟨address, -, hfirst, hlast⟩
  have hbounds : reversedGap.last < reversedGap.first := by decide
  omega

end Checks

end DesignRules
