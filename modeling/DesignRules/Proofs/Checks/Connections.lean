import DesignRules.Proofs.Checks.Reports
import Mathlib.Tactic.MkIffOfInductiveProp

/-! # Connections

When the two interfaces of a connection fit together, and when the checks of connections
find nothing critical.
-/

namespace DesignRules

/-- Directions that may be wired together. An input may be wired to an output. -/
def Direction.Fits (source target : Direction) : Prop :=
  (source = .master → target = .slave) ∧
    (source, target) ∉ [(.slave, .slave), (.output, .output), (.input, .input)]

/-- Interfaces that may be wired together. -/
@[mk_iff]
structure Interface.Fits (source target : Interface) : Prop where
  directions : source.direction.Fits target.direction
  buses : ∀ a b, filled source.busType = some a → filled target.busType = some b →
    BusType.normalize a = BusType.normalize b
  dataWidths : source.isAxi → target.isAxi → ∀ a b, source.dataWidth = some a →
    target.dataWidth = some b → a.isTrue → b.isTrue → a.agrees b
  idWidths : source.isAxi → target.isAxi → ∀ a b, source.idWidth = some a →
    target.idWidth = some b → a.isNumber → b.isNumber → a.isTrue → b.isTrue → a.atMost b

theorem filled_eq_some_iff {s : Option String} {text : String} :
    filled s = some text ↔ s = some text ∧ text ≠ "" := by
  rw [filled, Option.filter_eq_some_iff, bne_iff_ne]

namespace Resolver

variable {r : Resolver} {id : String} {i : Interface} {handle : Option String}

theorem eq_some_of_find? (h : r.find? id handle = some i) :
    handle = some i.id ∧ i ∈ r.interfaces id := by
  obtain ⟨interface, rfl, hi⟩ := Option.bind_eq_some_iff.mp h
  have hid : i.id = interface := by simpa using List.find?_some hi
  exact ⟨congrArg some hid.symm, List.mem_of_find?_eq_some hi⟩

theorem map_id_find? (hi : i ∈ r.interfaces id) :
    (r.find? id (some i.id)).map (·.id) = some i.id := by
  have hfound : (r.find? id (some i.id)).isSome := List.find?_isSome.mpr ⟨i, hi, by simp⟩
  obtain ⟨j, hj⟩ := Option.isSome_iff_exists.mp hfound
  rw [hj, Option.map_some]
  exact (eq_some_of_find? hj).1.symm

theorem find?_eq_none (h : ∀ i ∈ r.interfaces id, handle ≠ some i.id) :
    r.find? id handle = none := by
  rw [Option.eq_none_iff_forall_ne_some]
  intro i hi
  obtain ⟨hhandle, hmem⟩ := eq_some_of_find? hi
  exact h i hmem hhandle

end Resolver

namespace Checks

open Check Outcome

variable {ctx : Context} {vs : List Violation}

theorem clean_endpointExistence_iff : (ofPure endpointExistence).Clean ctx ↔
    ∀ e ∈ ctx.diagram.edges, ctx.diagram.hasNode e.source ∧ ctx.diagram.hasNode e.target := by
  rw [clean_ofPure_iff_eq_nil reportsOnly_endpointExistence rfl (by decide), endpointExistence,
    List.flatMap_eq_nil_iff]
  simp

/-! ## Wired interfaces -/

theorem ends?_eq_some_iff {r : Resolver} {e : Connection} {source target : Interface} :
    r.ends? e = some (source, target) ↔ r.resolveEdge e = (some source, some target) := by
  unfold Resolver.ends?
  split <;> simp_all

theorem mem_wired_iff {e : Connection} {source target : Interface} :
    (e, source, target) ∈ ctx.wired ↔
      e ∈ ctx.diagram.edges ∧ ctx.resolver.resolveEdge e = (some source, some target) := by
  rw [Context.wired, List.mem_filterMap, ← ends?_eq_some_iff]
  constructor
  · rintro ⟨f, hf, h⟩
    obtain ⟨ends, hends, he⟩ := Option.map_eq_some_iff.mp h
    obtain ⟨rfl, rfl⟩ := Prod.mk.inj he
    exact ⟨hf, hends⟩
  · rintro ⟨he, hends⟩
    exact ⟨e, he, by simp [hends]⟩

theorem mem_interfaces_of_pick? {r : Resolver} {id : String} {handle : Option String}
    {direction : Direction} {i : Interface} (h : r.pick? id handle direction = some i) :
    i ∈ r.interfaces id := by
  unfold Resolver.pick? at h
  split at h
  · exact (Resolver.eq_some_of_find? h).2
  · rw [Option.orElse_eq_orElse, Option.orElse_eq_or, Option.or_eq_some_iff] at h
    rcases h with h | ⟨-, h⟩
    · exact List.mem_of_find?_eq_some h
    · exact List.mem_of_mem_head? h

/-- The two interfaces of a connection belong to its two ends, which exist. -/
theorem ends_of_mem_wired {e : Connection} {source target : Interface}
    (h : (e, source, target) ∈ ctx.wired) :
    (ctx.diagram.hasNode e.source ∧ source ∈ ctx.interfaces e.source) ∧
      ctx.diagram.hasNode e.target ∧ target ∈ ctx.interfaces e.target := by
  obtain ⟨-, h⟩ := mem_wired_iff.mp h
  unfold Resolver.resolveEdge at h
  split at h
  case isFalse => cases h
  case isTrue hinner =>
    obtain ⟨hs, ht⟩ := Prod.mk.inj h
    obtain ⟨hsource, htarget⟩ := Bool.and_eq_true_iff.mp hinner
    exact ⟨⟨hsource, mem_interfaces_of_pick? hs⟩, htarget, mem_interfaces_of_pick? ht⟩

theorem mem_interfaces_of_mem_wired {e : Connection} {source target : Interface}
    (h : (e, source, target) ∈ ctx.wired) :
    (∃ n ∈ ctx.diagram.nodes, source ∈ ctx.interfaces n.id) ∧
      ∃ n ∈ ctx.diagram.nodes, target ∈ ctx.interfaces n.id := by
  obtain ⟨⟨hsource, hs⟩, htarget, ht⟩ := ends_of_mem_wired h
  obtain ⟨m, hm, hms⟩ := List.any_eq_true.mp hsource
  obtain ⟨n, hn, hnt⟩ := List.any_eq_true.mp htarget
  rw [← beq_iff_eq.mp hms] at hs
  rw [← beq_iff_eq.mp hnt] at ht
  exact ⟨⟨m, hm, hs⟩, n, hn, ht⟩

theorem directionFault?_iff {a b : Direction} :
    (∀ fault, directionFault? a b = some fault → fault.severity ≠ .critical) ↔ a.Fits b := by
  cases a <;> cases b <;> simp [directionFault?, Direction.Fits]

theorem clean_roleMatching_iff : (ofPure roleMatching).Clean ctx ↔
    ∀ wire ∈ ctx.wired, wire.2.1.direction.Fits wire.2.2.direction := by
  simp only [← directionFault?_iff]
  constructor
  · intro h wire hw fault hf
    have hv : ∃ v ∈ roleMatching ctx, v.severity = fault.severity :=
      ⟨_, List.mem_filterMap.mpr ⟨wire, hw, Option.map_eq_some_iff.mpr ⟨fault, hf, rfl⟩⟩, rfl⟩
    obtain ⟨v, hv, hs⟩ := hv
    exact hs ▸ h _ rfl v hv
  · rintro h vs hvs v hv
    obtain rfl := ofPure_eq_ok_iff.mp hvs
    obtain ⟨wire, hw, hv⟩ := List.mem_filterMap.mp hv
    obtain ⟨fault, hf, rfl⟩ := Option.map_eq_some_iff.mp hv
    exact h wire hw fault hf

theorem differingBuses?_eq_none_iff {source target : Interface} :
    differingBuses? source target = none ↔
      ∀ a b, filled source.busType = some a → filled target.busType = some b →
        BusType.normalize a = BusType.normalize b := by
  unfold differingBuses?
  split <;> simp_all

theorem clean_busTypeMatching_iff : (ofPure busTypeMatching).Clean ctx ↔
    ∀ wire ∈ ctx.wired, differingBuses? wire.2.1 wire.2.2 = none := by
  rw [clean_ofPure_iff_eq_nil reportsOnly_busTypeMatching rfl (by decide), busTypeMatching,
    List.filterMap_eq_nil_iff]
  simp only [Option.map_eq_none_iff]

/-! ## Widths of AXI interfaces -/

theorem differingWidths?_eq_none_iff {x y : Option Width} : differingWidths? x y = none ↔
    ∀ a b, x = some a → y = some b → a.isTrue → b.isTrue → a.agrees b := by
  unfold differingWidths?
  split <;> simp_all

theorem eq_some_of_differingWidths? {x y : Option Width} {a b : Width}
    (h : differingWidths? x y = some (a, b)) : x = some a ∧ y = some b := by
  unfold differingWidths? at h
  split at h <;> simp_all

theorem exceedingWidths?_eq_none_iff {x y : Option Width} : exceedingWidths? x y = none ↔
    ∀ a b, x = some a → y = some b → a.isNumber → b.isNumber → a.isTrue → b.isTrue →
      a.atMost b := by
  unfold exceedingWidths?
  split <;> simp_all

theorem conflictingWidths_eq_ok_nil_iff {rule : Rule} {aspect : String}
    {width : Interface → Option Width}
    {conflict? : Option Width → Option Width → Option (Width × Width)}
    {description suggestion : String → String → String}
    (h : conflictingWidths ctx rule aspect width conflict? description suggestion = .ok vs) :
    vs = [] ↔ ∀ wire ∈ ctx.wired, wire.2.1.isAxi → wire.2.2.isAxi →
      conflict? (width wire.2.1) (width wire.2.2) = none := by
  rw [← List.length_eq_zero_iff, ← (mapM_eq_ok_iff.mp h).length_eq, List.length_eq_zero_iff,
    List.filterMap_eq_nil_iff, axiWired]
  simp [List.mem_filter]

/-- Conflicting widths are reported unless one of them cannot be written. -/
theorem exists_conflictingWidths_iff {rule : Rule} {aspect : String}
    {width : Interface → Option Width}
    {conflict? : Option Width → Option Width → Option (Width × Width)}
    {description suggestion : String → String → String} :
    (∃ vs, conflictingWidths ctx rule aspect width conflict? description suggestion = .ok vs) ↔
      ∀ wire ∈ ctx.wired, wire.2.1.isAxi → wire.2.2.isAxi →
        ∀ a b, conflict? (width wire.2.1) (width wire.2.2) = some (a, b) →
          a.IsWritable ∧ b.IsWritable := by
  rw [conflictingWidths, exists_mapM_eq_ok_iff]
  simp only [← exists_writtenWidth_iff, exists_bind_eq_ok_iff, axiWired, List.mem_filterMap,
    List.mem_filter, Option.map_eq_some_iff, Bool.and_eq_true, pure, Except.pure, Except.ok.injEq,
    exists_eq', and_true, exists_and_right]
  constructor
  · intro h wire hwire hs ht a b hab
    exact h (wire.1, wire.2.1, wire.2.2, a, b) ⟨wire, ⟨hwire, hs, ht⟩, (a, b), hab, rfl⟩
  · rintro h _ ⟨wire, ⟨hwire, hs, ht⟩, ⟨a, b⟩, hab, rfl⟩
    exact h wire hwire hs ht a b hab

theorem clean_dataWidthMatching_iff (h : dataWidthMatching ctx = .ok vs) :
    Check.Clean dataWidthMatching ctx ↔ ∀ wire ∈ ctx.wired, wire.2.1.isAxi → wire.2.2.isAxi →
      differingWidths? wire.2.1.dataWidth wire.2.2.dataWidth = none := by
  rw [clean_iff_eq_nil reportsOnly_dataWidthMatching h rfl (by decide)]
  exact conflictingWidths_eq_ok_nil_iff h

theorem clean_idWidthCompatibility_iff (h : idWidthCompatibility ctx = .ok vs) :
    Check.Clean idWidthCompatibility ctx ↔ ∀ wire ∈ ctx.wired, wire.2.1.isAxi → wire.2.2.isAxi →
      exceedingWidths? wire.2.1.idWidth wire.2.2.idWidth = none := by
  rw [clean_iff_eq_nil reportsOnly_idWidthCompatibility h rfl (by decide)]
  exact conflictingWidths_eq_ok_nil_iff h

/-- The four checks of wired interfaces together. -/
theorem clean_wired_iff {us : List Violation} (hdata : dataWidthMatching ctx = .ok us)
    (hid : idWidthCompatibility ctx = .ok vs) :
    ((ofPure roleMatching).Clean ctx ∧ (ofPure busTypeMatching).Clean ctx ∧
      Check.Clean dataWidthMatching ctx ∧ Check.Clean idWidthCompatibility ctx) ↔
      ∀ wire ∈ ctx.wired, wire.2.1.Fits wire.2.2 := by
  rw [clean_roleMatching_iff, clean_busTypeMatching_iff, clean_dataWidthMatching_iff hdata,
    clean_idWidthCompatibility_iff hid]
  simp only [Interface.fits_iff, differingBuses?_eq_none_iff, differingWidths?_eq_none_iff,
    exceedingWidths?_eq_none_iff, forall_and]

end Checks

end DesignRules
