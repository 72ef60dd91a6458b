import DesignRules.Proofs.Address
import DesignRules.Proofs.Checks.AddressMap
import DesignRules.Proofs.Checks.Locality
import DesignRules.Proofs.Listing

/-! # Overlapping address ranges

A node entry has a range if its base and its size can be read and make sense. Exactly the pairs of
ranges with a common address are reported, in the order of the entries, and what is reported
gives the bounds of both ranges in a form that reads back.
-/

namespace DesignRules

/-- The base and the size of a node entry are given and can be read, and this is its range. -/
structure Diagram.Assigns (d : Diagram) (n : Node) (r : AddressRange) : Prop where
  node : r.node = n.id
  label : r.label = d.label n.id
  base : ∃ text, n.addressBase = some text ∧ text ≠ "" ∧ Address.read (.text text) = .ok r.base
  base_nonneg : 0 ≤ r.base
  space : n.addressSpace = some r.space ∧ r.space ≠ ""
  size : ∃ bytes : ℕ, Address.parseSize? r.space = some bytes ∧ r.size = bytes
  size_pos : 0 < r.size

/-- The details hold at the end of a path a text that reads as an address. -/
def Violation.GivesAddress (v : Violation) (path : List String) (address : ℤ) : Prop :=
  ∃ text, v.detail? path = some (.text text) ∧ Address.read (.text text) = .ok address

theorem Violation.givesAddress_of_hex {v : Violation} {path : List String} {address : ℤ}
    (h : v.detail? path = some (.text (Numeral.hex address))) : v.GivesAddress path address :=
  ⟨_, h, Address.read_of_ofText? (Address.ofText?_hex address)⟩

/-! ## Ranges of node entries -/

theorem Diagram.occupied_eq_range_iff {d : Diagram} {n : Node} {r : AddressRange} :
    d.occupied n = .range r ↔ d.Assigns n r := by
  rw [Checks.occupied_eq_range_iff_ofTexts]
  constructor
  · rintro ⟨base, space, hbase, hspace, h⟩
    obtain ⟨⟨hnode, hlabel, rfl⟩, ⟨hfirst, hneg⟩, bytes, hbytes, hsize, hpos⟩ :=
      Checks.ofTexts_eq_range_iff.mp h
    obtain ⟨hbase, hne⟩ := filled_eq_some_iff.mp hbase
    exact
      { node := hnode
        label := hlabel
        base := ⟨base, hbase, hne, Address.read_text_eq_ok_iff.mpr hfirst⟩
        base_nonneg := hneg
        space := filled_eq_some_iff.mp hspace
        size := ⟨bytes, hbytes, hsize⟩
        size_pos := hpos }
  · intro h
    obtain ⟨base, hbase, hne, hread⟩ := h.base
    obtain ⟨bytes, hbytes, hsize⟩ := h.size
    refine ⟨base, r.space, filled_eq_some_iff.mpr ⟨hbase, hne⟩, filled_eq_some_iff.mpr h.space, ?_⟩
    exact Checks.ofTexts_eq_range_iff.mpr ⟨⟨h.node, h.label, rfl⟩,
      ⟨Address.read_text_eq_ok_iff.mp hread, h.base_nonneg⟩, bytes, hbytes, hsize, h.size_pos⟩

theorem Diagram.Assigns.unique {d : Diagram} {n : Node} {r r' : AddressRange}
    (h : d.Assigns n r) (h' : d.Assigns n r') : r = r' := by
  rw [← Diagram.occupied_eq_range_iff] at h h'
  exact Occupied.range.inj (h.symm.trans h')

namespace Checks

open Check Outcome

variable {ctx : Context} {rs : List AddressRange}

theorem isSome_range?_iff {d : Diagram} {n : Node} :
    (d.occupied n).range?.isSome ↔ ∃ r, d.Assigns n r := by
  simp only [Option.isSome_iff_exists, range?_eq_some_iff, Diagram.occupied_eq_range_iff]

instance (d : Diagram) : DecidablePred fun n => ∃ r, d.Assigns n r :=
  fun _ => decidable_of_iff _ isSome_range?_iff

/-- The ranges are those of exactly the node entries that have one. -/
theorem forall₂_addressRanges (h : addressRanges ctx = .ok rs) :
    List.Forall₂ (fun r n => ctx.diagram.Assigns n r) rs
      (ctx.diagram.nodes.filter fun n => ∃ r, ctx.diagram.Assigns n r) := by
  obtain ⟨-, rfl⟩ := rangesOf_eq_ok_iff.mp h
  rw [List.filterMap_map]
  refine forall₂_filterMap_filter (fun n => isSome_range?_iff) (fun n r hr => ?_) _
  exact Diagram.occupied_eq_range_iff.mp (range?_eq_some_iff.mp hr)

theorem size_pos_of_mem (h : addressRanges ctx = .ok rs) {r : AddressRange} (hr : r ∈ rs) :
    0 < r.size := by
  obtain ⟨-, rfl⟩ := rangesOf_eq_ok_iff.mp h
  obtain ⟨o, ho, hr⟩ := List.mem_filterMap.mp hr
  obtain ⟨n, -, rfl⟩ := List.mem_map.mp ho
  exact size_pos_of_occupied (range?_eq_some_iff.mp hr)

/-! ## Overlaps -/

theorem pairs_eq {α : Type} (l : List α) :
    pairs l = (laterPlaces l.length).map fun p => (l.get p.1, l.get p.2) := by
  induction l with
  | nil => rfl
  | cons a l ih =>
    have hrest : l.map (fun b => (a, b)) =
        (List.finRange l.length).map fun j => (a, l.get j) := by
      conv_lhs => rw [← List.map_get_finRange l, List.map_map]
      rfl
    have hplaces : laterPlaces (a :: l).length = _ := laterPlaces_succ l.length
    rw [pairs, ih, hrest, hplaces, List.map_append, List.map_map, List.map_map]
    rfl

/-- The violation reports that two ranges overlap and gives the bounds of both. -/
structure ReportsOverlap (v : Violation) (a b : AddressRange) : Prop where
  ruleId : v.ruleId = Rule.addressOverlap.code
  components : v.affectedComponents = some [a.node, b.node]
  firstBase : v.GivesAddress ["component1", "base"] a.base
  firstLast : v.GivesAddress ["component1", "end"] a.last
  secondBase : v.GivesAddress ["component2", "base"] b.base
  secondLast : v.GivesAddress ["component2", "end"] b.last

theorem reportsOverlap_overlap (a b : AddressRange) : ReportsOverlap (overlap a b) a b where
  ruleId := rfl
  components := rfl
  firstBase := Violation.givesAddress_of_hex rfl
  firstLast := Violation.givesAddress_of_hex rfl
  secondBase := Violation.givesAddress_of_hex rfl
  secondLast := Violation.givesAddress_of_hex rfl

/-- The node entries that have a range are those whose base and size make sense. Exactly the pairs
of ranges with a common address are reported, in lexicographic order, and none is exactly if no
address belongs to the ranges of two node entries. -/
theorem addressOverlap_exact (h : addressRanges ctx = .ok rs) :
    List.Forall₂ (fun r n => ctx.diagram.Assigns n r) rs
      (ctx.diagram.nodes.filter fun n => ∃ r, ctx.diagram.Assigns n r) ∧
    ∃ vs, addressOverlap ctx = .ok vs ∧
      List.Forall₂ (fun v p => ReportsOverlap v (rs.get p.1) (rs.get p.2)) vs
        ((laterPlaces rs.length).filter fun p =>
          (rs.get p.1).Meets (rs.get p.2).base (rs.get p.2).last) ∧
      (vs = [] ↔ ∀ address, ctx.diagram.nodes.Pairwise fun m n =>
        ¬ (ctx.diagram.Occupies m address ∧ ctx.diagram.Occupies n address)) := by
  have hreports : addressOverlap ctx = .ok (((laterPlaces rs.length).filter fun p =>
      (rs.get p.1).overlaps (rs.get p.2).base (rs.get p.2).last).map fun p =>
        overlap (rs.get p.1) (rs.get p.2)) := by
    rw [addressOverlap, h]
    dsimp only [Except.map]
    rw [pairs_eq, List.filter_map, List.map_map]
    rfl
  refine ⟨forall₂_addressRanges h, _, hreports, ?_, ?_⟩
  · refine forall₂_map_filter (fun p _ => ?_) fun p => reportsOverlap_overlap _ _
    have hfirst := size_pos_of_mem h (List.get_mem rs p.1)
    have hsecond := size_pos_of_mem h (List.get_mem rs p.2)
    exact overlaps_iff hfirst hsecond
  · rw [← clean_iff_eq_nil reportsOnly_addressOverlap hreports rfl (by decide),
      clean_addressOverlap_iff hreports]
    simp only [List.pairwise_iff_forall_sublist]
    constructor
    · intro hclean address m n hmn
      exact hclean hmn address
    · intro hclean m n hmn address
      exact hclean address hmn

/-- A memory beyond the addresses of 64 bits, one inside of it, the neighbour of the first and a
component whose base is no address. -/
def highMap : Diagram where
  nodes :=
    [⟨"ram", "RAM", none, none, none, some "0x1_0000_0000_0000_0000", some "8KB", none, []⟩,
     ⟨"rom", "ROM", none, none, none, none, none,
       some ⟨some "18446744073709555712", some "1.5KB"⟩, []⟩,
     ⟨"uart", "UART", none, none, none, some "0x10000000000002000", some "4 kb", none, []⟩,
     ⟨"dsp", "DSP", none, none, none, some "nowhere", some "4KB", none, []⟩]
  edges := []

/-- The two memories overlap, the neighbour does not. -/
theorem addressOverlap_highMap : ∃ rs, addressRanges (Context.usual.on highMap) = .ok rs ∧
    rs.map (fun r => (r.base, r.size)) =
      [(2 ^ 64, 8192), (2 ^ 64 + 4096, 1536), (2 ^ 64 + 8192, 4096)] ∧
    ∃ vs, addressOverlap (Context.usual.on highMap) = .ok vs ∧
      vs.map (·.affectedComponents) = [some ["ram", "rom"]] ∧
      List.Forall₂ (fun v p => ReportsOverlap v (rs.get p.1) (rs.get p.2)) vs
        ((laterPlaces rs.length).filter fun p =>
          (rs.get p.1).Meets (rs.get p.2).base (rs.get p.2).last) := by
  have hranges : (addressRanges (Context.usual.on highMap)).map
      (List.map fun r => (r.base, r.size)) =
        .ok [(2 ^ 64, 8192), (2 ^ 64 + 4096, 1536), (2 ^ 64 + 8192, 4096)] := by
    decide +kernel
  have hreported : (addressOverlap (Context.usual.on highMap)).map
      (List.map (·.affectedComponents)) = .ok [some ["ram", "rom"]] := by
    decide +kernel
  obtain ⟨rs, hrs, hbounds⟩ := map_eq_ok_iff.mp hranges
  obtain ⟨-, vs, hvs, hreports, -⟩ := addressOverlap_exact hrs
  rw [hvs] at hreported
  exact ⟨rs, hrs, hbounds, vs, hvs, Except.ok.inj hreported, hreports⟩

end Checks

end DesignRules
