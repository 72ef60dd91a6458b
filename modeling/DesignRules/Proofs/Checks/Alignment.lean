import DesignRules.Proofs.Checks.AddressRanges
import Mathlib.Order.Bounds.Defs

/-! # Alignment

A range is aligned if its base is a multiple of its size. For each other range the next multiple
is suggested, and taking it as the base of the node entry removes this one report and leaves all
others as they are.
-/

namespace DesignRules

/-- The node entry has a range whose base is no multiple of its size. -/
def Diagram.IsMisaligned (d : Diagram) (n : Node) : Prop :=
  ∃ r, d.Assigns n r ∧ ¬ r.size ∣ r.base

/-- The same node with another base address. -/
def Node.rebased (n : Node) (base : String) : Node := { n with targetBase := some base }

/-! ## Another base address -/

section Rebased

variable {before after : List Node} {edges : List Connection} {n : Node} {r : AddressRange}
  {text : String} {base : ℤ}

theorem Node.addressBase_rebased (h : text ≠ "") : (n.rebased text).addressBase = some text := by
  have hfilled : filled (some text) = some text := filled_eq_some_iff.mpr ⟨rfl, h⟩
  rw [Node.addressBase, Node.rebased, hfilled]
  rfl

theorem Diagram.label_rebased (id : String) :
    Diagram.label ⟨before ++ n.rebased text :: after, edges⟩ id =
      Diagram.label ⟨before ++ n :: after, edges⟩ id := by
  unfold Diagram.label Diagram.node?
  rw [List.find?_append, List.find?_append, List.find?_cons, List.find?_cons]
  cases before.find? (·.id == id) with
  | some m => rfl
  | none => cases hid : n.id == id <;> simp [Node.rebased, hid]

theorem Diagram.occupied_rebased (m : Node) :
    Diagram.occupied ⟨before ++ n.rebased text :: after, edges⟩ m =
      Diagram.occupied ⟨before ++ n :: after, edges⟩ m := by
  rw [Diagram.occupied, Diagram.occupied, Diagram.label_rebased]

/-- With a base address that can be read the node entry has the range from there on. -/
theorem Diagram.Assigns.rebased
    (h : Diagram.Assigns ⟨before ++ n :: after, edges⟩ n r) (hne : text ≠ "")
    (hread : Address.read (.text text) = .ok base) (hbase : 0 ≤ base) :
    Diagram.Assigns ⟨before ++ n.rebased text :: after, edges⟩ (n.rebased text)
      { r with base := base } where
  node := h.node
  label := h.label.trans (Diagram.label_rebased n.id).symm
  base := ⟨text, Node.addressBase_rebased hne, hne, hread⟩
  base_nonneg := hbase
  space := h.space
  size := h.size
  size_pos := h.size_pos

theorem Diagram.Assigns.ne_oversized {d : Diagram} (h : d.Assigns n r) :
    d.occupied n ≠ .oversized := by
  simp [Diagram.occupied_eq_range_iff.mpr h]

end Rebased

namespace Checks

open Outcome

variable {ctx : Context} {d : Diagram} {n : Node} {r : AddressRange} {v : Violation}

theorem isLeast_nextAligned (h : 0 < r.size) :
    IsLeast {m : ℤ | r.size ∣ m ∧ r.base < m} (nextAligned r) := by
  have hmod := Int.emod_lt_of_pos r.base h
  have hdiv := Int.mul_ediv_add_emod r.base r.size
  have hnext : nextAligned r = r.size * (r.base / r.size + 1) := by
    rw [nextAligned, Int.mul_add, Int.mul_one]
    omega
  constructor
  · refine ⟨Dvd.intro _ hnext.symm, ?_⟩
    rw [nextAligned]
    omega
  · rintro _ ⟨⟨k, rfl⟩, hlt⟩
    have hk : r.base / r.size < k := Int.ediv_lt_of_lt_mul h (by rwa [Int.mul_comm] at hlt)
    rw [hnext]
    exact Int.mul_le_mul_of_nonneg_left hk (Int.le_of_lt h)

/-- The violation reports a range and suggests the least multiple of its size beyond its base. -/
structure ReportsMisaligned (v : Violation) (r : AddressRange) : Prop where
  ruleId : v.ruleId = Rule.addressAlignment.code
  components : v.affectedComponents = some [r.node]
  base : v.GivesAddress ["baseAddress"] r.base
  suggestion : ∃ m, v.GivesAddress ["suggestedAddress"] m ∧
    IsLeast {m : ℤ | r.size ∣ m ∧ r.base < m} m

/-- What is reported about a node entry, if its range is misaligned. -/
def misalignedAt (d : Diagram) (n : Node) : Option Violation :=
  ((d.occupied n).range?.filter fun r => r.base % r.size != 0).map misaligned

theorem misalignedAt_eq_some_iff :
    misalignedAt d n = some v ↔ ∃ r, d.Assigns n r ∧ ¬ r.size ∣ r.base ∧ misaligned r = v := by
  simp only [misalignedAt, Option.map_eq_some_iff, Option.filter_eq_some_iff, range?_eq_some_iff,
    Diagram.occupied_eq_range_iff, bne_iff_ne, ne_eq, Int.dvd_iff_emod_eq_zero, and_assoc]

theorem misalignedAt_eq_none (h : d.Assigns n r) (hdvd : r.size ∣ r.base) :
    misalignedAt d n = none := by
  rw [Option.eq_none_iff_forall_ne_some]
  intro v hv
  obtain ⟨r', hr', hmisaligned, -⟩ := misalignedAt_eq_some_iff.mp hv
  obtain rfl := h.unique hr'
  exact hmisaligned hdvd

theorem isSome_misalignedAt_iff : (misalignedAt d n).isSome ↔ d.IsMisaligned n := by
  simp [Option.isSome_iff_exists, misalignedAt_eq_some_iff, Diagram.IsMisaligned]

instance (d : Diagram) : DecidablePred d.IsMisaligned :=
  fun _ => decidable_of_iff _ isSome_misalignedAt_iff

/-- The alignment of the ranges can be judged exactly if no size is too long to be read. Then it is
judged entry by entry. -/
theorem addressAlignment_eq_ok_iff {vs : List Violation} : addressAlignment ctx = .ok vs ↔
    (∀ n ∈ ctx.diagram.nodes, ctx.diagram.occupied n ≠ .oversized) ∧
      ctx.diagram.nodes.filterMap (misalignedAt ctx.diagram) = vs := by
  have hentries : (((ctx.diagram.nodes.map ctx.diagram.occupied).filterMap Occupied.range?).filter
      fun r => r.base % r.size != 0).map misaligned =
        ctx.diagram.nodes.filterMap (misalignedAt ctx.diagram) := by
    rw [List.filterMap_map, List.filter_filterMap, List.map_filterMap]
    rfl
  rw [addressAlignment, map_eq_ok_iff, ← hentries]
  simp only [addressRanges, rangesOf_eq_ok_iff]
  constructor
  · rintro ⟨_, ⟨hread, rfl⟩, rfl⟩
    exact ⟨fun n hn => hread _ (List.mem_map_of_mem hn), rfl⟩
  · rintro ⟨hread, rfl⟩
    exact ⟨_, ⟨List.forall_mem_map.mpr hread, rfl⟩, rfl⟩

theorem reportsMisaligned_of_misalignedAt (h : misalignedAt d n = some v) :
    ∃ r, d.Assigns n r ∧ ReportsMisaligned v r := by
  obtain ⟨r, hr, -, rfl⟩ := misalignedAt_eq_some_iff.mp h
  exact ⟨r, hr,
    { ruleId := rfl
      components := rfl
      base := Violation.givesAddress_of_hex rfl
      suggestion := ⟨_, Violation.givesAddress_of_hex rfl, isLeast_nextAligned hr.size_pos⟩ }⟩

/-- The violations report exactly the misaligned ones of some node entries, in their order. -/
def ListsMisaligned (d : Diagram) (vs : List Violation) (nodes : List Node) : Prop :=
  List.Forall₂ (fun v n => ∃ r, d.Assigns n r ∧ ReportsMisaligned v r) vs
    (nodes.filter d.IsMisaligned)

theorem listsMisaligned_filterMap (d : Diagram) (nodes : List Node) :
    ListsMisaligned d (nodes.filterMap (misalignedAt d)) nodes :=
  forall₂_filterMap_filter (fun _ => isSome_misalignedAt_iff)
    (fun _ _ h => reportsMisaligned_of_misalignedAt h) nodes

section Replaced

variable {before after : List Node} {edges : List Connection} {vs : List Violation}

/-- Where an aligned node entry takes the place of another and all others have the same ranges,
what was reported about the other one is gone. -/
theorem addressAlignment_replaced {n' : Node} (hnodes : ctx.diagram.nodes = before ++ n :: after)
    (hvs : addressAlignment ctx = .ok vs)
    (hsame : ∀ m, Diagram.occupied ⟨before ++ n' :: after, edges⟩ m = ctx.diagram.occupied m)
    (hr : Diagram.Assigns ⟨before ++ n' :: after, edges⟩ n' r) (hdvd : r.size ∣ r.base) :
    addressAlignment (ctx.on ⟨before ++ n' :: after, edges⟩) =
      .ok (before.filterMap (misalignedAt ctx.diagram) ++
        after.filterMap (misalignedAt ctx.diagram)) := by
  obtain ⟨hread, -⟩ := addressAlignment_eq_ok_iff.mp hvs
  rw [hnodes, List.forall_mem_append, List.forall_mem_cons] at hread
  refine addressAlignment_eq_ok_iff.mpr ⟨?_, ?_⟩
  · -- the check still ends: the sizes of the others could be read before
    refine List.forall_mem_append.mpr ⟨?_, List.forall_mem_cons.mpr ⟨hr.ne_oversized, ?_⟩⟩
    · exact fun m hm => (hsame m).trans_ne (hread.1 m hm)
    · exact fun m hm => (hsame m).trans_ne (hread.2.2 m hm)
  · have hjudged : misalignedAt ⟨before ++ n' :: after, edges⟩ = misalignedAt ctx.diagram := by
      funext m
      rw [misalignedAt, hsame, ← misalignedAt]
    change (before ++ n' :: after).filterMap (misalignedAt ⟨before ++ n' :: after, edges⟩) = _
    rw [List.filterMap_append, List.filterMap_cons_none (misalignedAt_eq_none hr hdvd), hjudged]

/-- The suggested base is aligned, and the other node entries are judged as before. -/
theorem addressAlignment_rebased (hnodes : ctx.diagram.nodes = before ++ n :: after)
    (hvs : addressAlignment ctx = .ok vs) (hr : ctx.diagram.Assigns n r) :
    addressAlignment (ctx.on ⟨before ++ n.rebased (Numeral.hex (nextAligned r)) :: after,
        ctx.diagram.edges⟩) =
      .ok (before.filterMap (misalignedAt ctx.diagram) ++
        after.filterMap (misalignedAt ctx.diagram)) := by
  have hd : ctx.diagram = ⟨before ++ n :: after, ctx.diagram.edges⟩ := by rw [← hnodes]
  obtain ⟨hdvd, hlt⟩ := (isLeast_nextAligned hr.size_pos).1
  have hassigned := Diagram.Assigns.rebased (hd ▸ hr)
    (show Numeral.hex (nextAligned r) ≠ "" by simp [Numeral.hex])
    (Address.read_of_ofText? (Address.ofText?_hex _))
    (Int.le_trans hr.base_nonneg (Int.le_of_lt hlt))
  refine addressAlignment_replaced hnodes hvs (fun m => ?_) hassigned hdvd
  rw [hd]
  exact Diagram.occupied_rebased m

end Replaced

/-- Exactly the node entries are reported whose base is no multiple of their size, with the least
greater multiple as a suggestion. Once an entry has taken the suggestion for its base, what was
reported about it is gone and all else is reported as before. -/
theorem addressAlignment_exact {rs : List AddressRange} (h : addressRanges ctx = .ok rs) :
    List.Forall₂ (fun r n => ctx.diagram.Assigns n r) rs
      (ctx.diagram.nodes.filter fun n => ∃ r, ctx.diagram.Assigns n r) ∧
    ∃ vs, addressAlignment ctx = .ok vs ∧ ListsMisaligned ctx.diagram vs ctx.diagram.nodes ∧
      ∀ before n after, ctx.diagram.nodes = before ++ n :: after → ctx.diagram.IsMisaligned n →
        ∃ us v ws text, vs = us ++ v :: ws ∧ ListsMisaligned ctx.diagram us before ∧
          ListsMisaligned ctx.diagram [v] [n] ∧ ListsMisaligned ctx.diagram ws after ∧
          v.detail? ["suggestedAddress"] = some (.text text) ∧
          addressAlignment (ctx.on ⟨before ++ n.rebased text :: after, ctx.diagram.edges⟩) =
            .ok (us ++ ws) := by
  obtain ⟨hread, -⟩ := rangesOf_eq_ok_iff.mp h
  have hvs : addressAlignment ctx = .ok _ :=
    addressAlignment_eq_ok_iff.mpr ⟨fun n hn => hread _ (List.mem_map_of_mem hn), rfl⟩
  refine ⟨forall₂_addressRanges h, _, hvs, listsMisaligned_filterMap _ _, ?_⟩
  rintro before n after hnodes ⟨r, hr, hmisaligned⟩
  have hn : misalignedAt ctx.diagram n = some (misaligned r) :=
    misalignedAt_eq_some_iff.mpr ⟨r, hr, hmisaligned, rfl⟩
  refine ⟨_, misaligned r, _, Numeral.hex (nextAligned r), ?_, listsMisaligned_filterMap _ before,
    ?_, listsMisaligned_filterMap _ after, rfl, addressAlignment_rebased hnodes hvs hr⟩
  · rw [hnodes, List.filterMap_append, List.filterMap_cons_some hn]
  · have hsingle := listsMisaligned_filterMap ctx.diagram [n]
    rwa [List.filterMap_cons_some hn] at hsingle

/-- A memory whose size is a fraction of a unit and whose base is given in the nested form. -/
def fractionalRom : Node :=
  ⟨"rom", "ROM", none, none, none, none, none, some ⟨some "1000", some "0.3KB"⟩, []⟩

/-- A memory between a misaligned component and an aligned one. -/
def skewedMap (rom : Node) : Diagram where
  nodes :=
    [⟨"dma", "DMA", none, none, none, some "0x40001800", some "4KB", none, []⟩] ++ rom ::
      [⟨"uart", "UART", none, none, none, some "3000", some "1000", none, []⟩]
  edges := []

/-- Of the two misaligned components the memory takes what is suggested, and the other is reported
as before. -/
theorem addressAlignment_skewedMap : fractionalRom.addressBase = some "1000" ∧
    (skewedMap fractionalRom).IsMisaligned fractionalRom ∧
    ∃ us v ws text,
      addressAlignment (Context.usual.on (skewedMap fractionalRom)) = .ok (us ++ v :: ws) ∧
      (us ++ v :: ws).map (·.affectedComponents) = [some ["dma"], some ["rom"]] ∧
      ListsMisaligned (skewedMap fractionalRom) [v] [fractionalRom] ∧
      v.detail? ["suggestedAddress"] = some (.text text) ∧
      addressAlignment (Context.usual.on (skewedMap (fractionalRom.rebased text))) =
        .ok (us ++ ws) := by
  have hranges : (addressRanges (Context.usual.on (skewedMap fractionalRom))).map
      (fun _ => ()) = .ok () := by
    decide +kernel
  have hreported : (addressAlignment (Context.usual.on (skewedMap fractionalRom))).map
      (List.map (·.affectedComponents)) = .ok [some ["dma"], some ["rom"]] := by
    decide +kernel
  have hmisaligned : (skewedMap fractionalRom).IsMisaligned fractionalRom := by decide +kernel
  obtain ⟨rs, hrs, -⟩ := map_eq_ok_iff.mp hranges
  obtain ⟨-, vs, hvs, -, hfix⟩ := addressAlignment_exact hrs
  obtain ⟨us, v, ws, text, rfl, -, hv, -, htext, hrebased⟩ := hfix _ fractionalRom _ rfl hmisaligned
  rw [hvs] at hreported
  exact ⟨rfl, hmisaligned, us, v, ws, text, hvs, Except.ok.inj hreported, hv, htext, hrebased⟩

end Checks

end DesignRules
