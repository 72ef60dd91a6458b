import DesignRules.Proofs.Analysis.Findings
import DesignRules.Proofs.Checks.Ports
import DesignRules.Proofs.Checks.Symmetry
import DesignRules.Proofs.Graph.Reversal

/-! # Checks of reversed diagrams

If all connections name their ports, most checks find a rule broken as often when every
connection is turned round.
-/

namespace DesignRules

open Check Checks Outcome

/-- Both ports of the connection are named. -/
structure Connection.HasHandles (e : Connection) : Prop where
  source : (filled e.sourceHandle).isSome
  target : (filled e.targetHandle).isSome

instance (e : Connection) : Decidable e.HasHandles :=
  decidable_of_iff ((filled e.sourceHandle).isSome ∧ (filled e.targetHandle).isSome)
    ⟨fun h => ⟨h.1, h.2⟩, fun h => ⟨h.source, h.target⟩⟩

/-- The same analysis with the ends of all connections exchanged. -/
def Context.reversed (ctx : Context) : Context := ctx.on ctx.diagram.reversed

/-- The violation names the ends of the connection, its ports and its identifier. -/
structure Violation.IsAbout (v : Violation) (e : Connection) : Prop where
  components : v.affectedComponents = some [e.source, e.target]
  interfaces : v.affectedInterfaces = some (e.sourceHandle.toList ++ e.targetHandle.toList)
  connections : v.affectedConnections = some (edgeIds [e])

theorem Connection.HasHandles.reversed {e : Connection} (h : e.HasHandles) :
    e.reversed.HasHandles :=
  ⟨h.target, h.source⟩

/-! ## Resolution -/

namespace Resolver

variable {r : Resolver} {id : String}

/-- Without a handle to be found the direction does not matter. -/
theorem pick?_of_isSome {handle : Option String} (h : (filled handle).isSome)
    (direction : Direction) : r.pick? id handle direction = r.find? id handle := by
  obtain ⟨text, htext⟩ := Option.isSome_iff_exists.mp h
  rw [pick?, htext, (filled_eq_some_iff.mp htext).1]

end Resolver

namespace Context

variable {ctx : Context} {e : Connection}

theorem resolveEdge_reversed (he : e.HasHandles) :
    ctx.reversed.resolver.resolveEdge e.reversed = (ctx.resolver.resolveEdge e).swap := by
  have hinner : ctx.reversed.resolver.diagram.isInner e.reversed =
      ctx.resolver.diagram.isInner e := Bool.and_comm _ _
  simp only [Resolver.resolveEdge, hinner, Resolver.sourceInterface?, Resolver.targetInterface?]
  have hsource : (filled e.reversed.sourceHandle).isSome := he.target
  have htarget : (filled e.reversed.targetHandle).isSome := he.source
  rw [Resolver.pick?_of_isSome he.source, Resolver.pick?_of_isSome he.target,
    Resolver.pick?_of_isSome hsource, Resolver.pick?_of_isSome htarget]
  split <;> rfl

theorem ends?_reversed (he : e.HasHandles) :
    ctx.reversed.resolver.ends? e.reversed = (ctx.resolver.ends? e).map Prod.swap := by
  unfold Resolver.ends?
  rw [resolveEdge_reversed he]
  obtain ⟨s, t⟩ := ctx.resolver.resolveEdge e
  cases s <;> cases t <;> rfl

variable (h : ∀ e ∈ ctx.diagram.edges, e.HasHandles)

include h

theorem wired_reversed : ctx.reversed.wired =
    ctx.wired.map fun wire => (wire.1.reversed, wire.2.swap) := by
  change (ctx.diagram.edges.map Connection.reversed).filterMap _ = _
  rw [List.filterMap_map, wired, List.map_filterMap]
  refine List.filterMap_congr fun e he => ?_
  simp only [Function.comp_apply, ends?_reversed (h e he), Option.map_map]
  rfl

/-- As many pairs of wired interfaces have a property as have it the other way round. -/
theorem countP_wired_reversed (p : Interface → Interface → Bool) :
    ctx.reversed.wired.countP (fun wire => p wire.2.1 wire.2.2) =
      ctx.wired.countP fun wire => p wire.2.2 wire.2.1 := by
  rw [wired_reversed h, List.countP_map]
  rfl

theorem contains_connectedPorts_reversed (port : String × String) :
    (connectedPorts ctx.reversed).contains port = (connectedPorts ctx).contains port := by
  have hports : connectedPorts ctx.reversed = ctx.diagram.edges.flatMap fun e =>
      touchedPorts ctx.reversed e.reversed := List.flatMap_map _ _ _
  rw [Bool.eq_iff_iff, List.contains_iff_mem, List.contains_iff_mem, hports, connectedPorts,
    List.mem_flatMap, List.mem_flatMap]
  refine exists_congr fun e => and_congr_right fun he => ?_
  rw [touchedPorts, touchedPorts, resolveEdge_reversed (h e he), List.mem_append, List.mem_append]
  exact or_comm

end Context

/-! ## Counting -/

/-- Where the check ends in both contexts, it finds the rule broken as often. -/
def Check.Tallies (check : Check) (rule : Rule) (ctx ctx' : Context) : Prop :=
  ∀ us us', check ctx = .ok us → check ctx' = .ok us' →
    us.countP (·.ruleId == rule.code) = us'.countP (·.ruleId == rule.code)

namespace Check

variable {check : Check} {rule other : Rule} {rules : List Rule} {ctx ctx' : Context}
  {us : List Violation}

theorem tallies_of_eq (h : check ctx = check ctx') : check.Tallies rule ctx ctx' := by
  intro us us' hus hus'
  rw [h, hus'] at hus
  rw [Except.ok.inj hus]

theorem countP_eq_zero_of_not_mem (h : check.ReportsOnly rules) (hrule : rule ∉ rules)
    (hus : check ctx = .ok us) : us.countP (·.ruleId == rule.code) = 0 := by
  refine List.countP_eq_zero.mpr fun v hv => ?_
  obtain ⟨other, hother, hrep⟩ := h ctx us hus v hv
  rw [beq_iff_eq, hrep.ruleId_eq_iff]
  exact fun he => hrule (he ▸ hother)

theorem tallies_of_not_mem (h : check.ReportsOnly rules) (hrule : rule ∉ rules) :
    check.Tallies rule ctx ctx' := by
  intro us us' hus hus'
  rw [countP_eq_zero_of_not_mem h hrule hus, countP_eq_zero_of_not_mem h hrule hus']

/-- Of a check of one rule only the number of violations counts. -/
theorem tallies_of_length (h : check.ReportsOnly [other])
    (hlength : ∀ us us', check ctx = .ok us → check ctx' = .ok us' → us.length = us'.length) :
    check.Tallies rule ctx ctx' := by
  by_cases hrule : rule = other
  · subst hrule
    have hall : ∀ {ctx us}, check ctx = .ok us → us.countP (·.ruleId == rule.code) = us.length := by
      intro ctx us hus
      refine List.countP_eq_length.mpr fun v hv => ?_
      obtain ⟨other, hother, hrep⟩ := h ctx us hus v hv
      obtain rfl := List.mem_singleton.mp hother
      exact beq_iff_eq.mpr hrep.ruleId_eq
    intro us us' hus hus'
    rw [hall hus, hall hus', hlength us us' hus hus']
  · exact tallies_of_not_mem h (by simpa using hrule)

theorem tallies_ofPure {check : Context → List Violation} (h : (ofPure check).ReportsOnly [other])
    (hlength : (check ctx).length = (check ctx').length) :
    (ofPure check).Tallies rule ctx ctx' := by
  refine tallies_of_length h fun us us' hus hus' => ?_
  rwa [← ofPure_eq_ok_iff.mp hus, ← ofPure_eq_ok_iff.mp hus']

end Check

/-! ## The checks -/

namespace Checks

variable {ctx : Context} {rule : Rule}

/-! ### Connections -/

theorem tallies_endpointExistence (ctx : Context) :
    (ofPure endpointExistence).Tallies rule ctx ctx.reversed := by
  refine tallies_ofPure reportsOnly_endpointExistence ?_
  have hlength : ∀ ctx, (endpointExistence ctx).length = (ctx.diagram.edges.map fun e =>
      (if ctx.diagram.hasNode e.source then 0 else 1) +
        if ctx.diagram.hasNode e.target then 0 else 1).sum := by
    intro ctx
    rw [endpointExistence, List.length_flatMap]
    refine congrArg List.sum (List.map_congr_left fun e _ => ?_)
    rw [List.length_append]
    split <;> split <;> rfl
  rw [hlength, hlength]
  change _ = ((ctx.diagram.edges.map Connection.reversed).map _).sum
  rw [List.map_map]
  exact congrArg List.sum (List.map_congr_left fun e _ => Nat.add_comm _ _)

theorem tallies_portUniqueness (ctx : Context) :
    (ofPure portUniqueness).Tallies rule ctx ctx.reversed := by
  refine tallies_ofPure reportsOnly_portUniqueness ?_
  rw [length_portUniqueness, length_portUniqueness]
  refine countP_several_of_perm ?_
  rw [map_key_references, map_key_references]
  change (ctx.diagram.edges.flatMap Connection.namedPorts).Perm
    ((ctx.diagram.edges.map Connection.reversed).flatMap Connection.namedPorts)
  rw [List.flatMap_map]
  exact List.Perm.flatMap_left _ fun e _ => List.perm_append_comm

theorem length_filterMap_axiWired {α β : Type} {fault? : Interface → Interface → Option α}
    {found? : Connection × Interface × Interface → Option β}
    (h : ∀ e s t, (found? (e, s, t)).isSome = (fault? s t).isSome) (ctx : Context) :
    ((axiWired ctx).filterMap found?).length =
      ctx.wired.countP fun wire => (axiFault? fault? wire.2.1 wire.2.2).isSome := by
  rw [List.length_filterMap_eq_countP, axiWired, List.countP_filter]
  refine List.countP_congr fun wire _ => ?_
  obtain ⟨e, s, t⟩ := wire
  rw [h, axiFault?]
  change ((fault? s t).isSome && (s.isAxi && t.isAxi)) = true ↔
    (if s.isAxi && t.isAxi then fault? s t else none).isSome
  cases (s.isAxi && t.isAxi) <;> simp

section Wired

variable (h : ∀ e ∈ ctx.diagram.edges, e.HasHandles)

include h

/-- A check of wired interfaces that does not mind which of them comes first. -/
theorem tallies_filterMap {α : Type} {fault? : Interface → Interface → Option α} {other : Rule}
    {report : Context → Connection × Interface × Interface → α → Violation}
    (honly : (ofPure fun ctx => ctx.wired.filterMap fun wire =>
      (fault? wire.2.1 wire.2.2).map (report ctx wire)).ReportsOnly [other])
    (hcomm : ∀ s t, (fault? s t).isSome = (fault? t s).isSome) :
    (ofPure fun ctx => ctx.wired.filterMap fun wire =>
      (fault? wire.2.1 wire.2.2).map (report ctx wire)).Tallies rule ctx ctx.reversed := by
  refine tallies_ofPure honly ?_
  simp only [List.length_filterMap_eq_countP, Option.isSome_map]
  rw [ctx.countP_wired_reversed h fun s t => (fault? s t).isSome]
  simp only [hcomm]

theorem tallies_busTypeMatching :
    (ofPure busTypeMatching).Tallies rule ctx ctx.reversed :=
  tallies_filterMap h reportsOnly_busTypeMatching isSome_differingBuses?_comm

theorem tallies_clockDomainCrossing :
    (ofPure clockDomainCrossing).Tallies rule ctx ctx.reversed :=
  tallies_filterMap h reportsOnly_clockDomainCrossing isSome_differingClocks?_comm

theorem countP_axiFault?_reversed {α : Type} {fault? : Interface → Interface → Option α}
    (hcomm : ∀ s t, (fault? s t).isSome = (fault? t s).isSome) :
    ctx.reversed.wired.countP (fun wire => (axiFault? fault? wire.2.1 wire.2.2).isSome) =
      ctx.wired.countP fun wire => (axiFault? fault? wire.2.1 wire.2.2).isSome := by
  rw [ctx.countP_wired_reversed h fun s t => (axiFault? fault? s t).isSome]
  simp only [isSome_axiFault?_comm _ _ hcomm]

theorem tallies_clockCompatibility :
    (ofPure clockCompatibility).Tallies rule ctx ctx.reversed := by
  refine tallies_ofPure reportsOnly_clockCompatibility ?_
  have hlength : ∀ ctx, (clockCompatibility ctx).length =
      ctx.wired.countP fun wire => (axiFault? differingClocks? wire.2.1 wire.2.2).isSome := by
    intro ctx
    rw [clockCompatibility]
    exact length_filterMap_axiWired (fun _ _ _ => by exact Option.isSome_map) ctx
  rw [hlength, hlength, countP_axiFault?_reversed h isSome_differingClocks?_comm]

theorem tallies_conflictingWidths {other : Rule} {aspect : String}
    {width : Interface → Option Width} {description suggestion : String → String → String}
    (honly : Check.ReportsOnly (fun ctx => conflictingWidths ctx other aspect width
      differingWidths? description suggestion) [other]) :
    Check.Tallies (fun ctx => conflictingWidths ctx other aspect width differingWidths?
      description suggestion) rule ctx ctx.reversed := by
  refine tallies_of_length honly fun us us' hus hus' => ?_
  let fault? s t := differingWidths? (width s) (width t)
  have hcomm : ∀ s t, (fault? s t).isSome = (fault? t s).isSome :=
    fun _ _ => isSome_differingWidths?_comm _ _
  rw [← (mapM_eq_ok_iff.mp hus).length_eq, ← (mapM_eq_ok_iff.mp hus').length_eq,
    length_filterMap_axiWired (fun _ _ _ => Option.isSome_map) ctx,
    length_filterMap_axiWired (fun _ _ _ => Option.isSome_map) ctx.reversed]
  exact (countP_axiFault?_reversed h hcomm).symm

theorem tallies_unconnectedInterfaces :
    (ofPure unconnectedInterfaces).Tallies rule ctx ctx.reversed := by
  refine tallies_of_eq (congrArg Except.ok ?_)
  simp only [unconnectedInterfaces, ctx.contains_connectedPorts_reversed h]
  rfl

end Wired

/-! ### Topology -/

theorem tallies_circularDependency (ctx : Context) :
    (ofPure circularDependency).Tallies rule ctx ctx.reversed := by
  refine tallies_ofPure reportsOnly_circularDependency ?_
  rw [circularDependency, List.length_map, circularDependency, List.length_map]
  have hlength := (Diagram.circuits_reversed_perm ctx.diagram).length_eq
  rw [List.length_map] at hlength
  exact hlength.symm

theorem tallies_isolatedComponent (ctx : Context) :
    (ofPure isolatedComponent).Tallies rule ctx ctx.reversed := by
  have hconnected : ctx.reversed.diagram.isConnected = ctx.diagram.isConnected :=
    funext ctx.diagram.isConnected_reversed
  refine tallies_of_eq (congrArg Except.ok ?_)
  rw [isolatedComponent, isolatedComponent, hconnected]
  rfl

theorem isCrowded_reversed (ctx : Context) : isCrowded ctx.reversed = isCrowded ctx := by
  funext n
  have hout : ctx.reversed.diagram.outDegree n.id = ctx.diagram.inDegree n.id :=
    ctx.diagram.outDegree_reversed n.id
  have hin : ctx.reversed.diagram.inDegree n.id = ctx.diagram.outDegree n.id :=
    ctx.diagram.inDegree_reversed n.id
  rw [isCrowded, hout, hin, Bool.or_comm]
  rfl

theorem tallies_interconnectFanout (ctx : Context) :
    (ofPure interconnectFanout).Tallies rule ctx ctx.reversed := by
  refine tallies_ofPure reportsOnly_interconnectFanout ?_
  rw [interconnectFanout, List.length_map, interconnectFanout, List.length_map, isCrowded_reversed]
  rfl

/-! ### Identifier widths -/

variable {e : Connection} {source target : Interface} {v : Violation} {us : List Violation}

/-- A handle of a wired connection is the identifier of the interface. -/
theorem handles_of_mem_wired (he : e.HasHandles) (hwire : (e, source, target) ∈ ctx.wired) :
    e.sourceHandle = some source.id ∧ e.targetHandle = some target.id := by
  obtain ⟨-, hends⟩ := mem_wired_iff.mp hwire
  unfold Resolver.resolveEdge at hends
  split at hends
  case isFalse => cases hends
  case isTrue =>
    obtain ⟨hs, ht⟩ := Prod.mk.inj hends
    rw [Resolver.sourceInterface?, Resolver.pick?_of_isSome he.source] at hs
    rw [Resolver.targetInterface?, Resolver.pick?_of_isSome he.target] at ht
    exact ⟨(Resolver.eq_some_of_find? hs).1, (Resolver.eq_some_of_find? ht).1⟩

/-- What the check of identifier widths finds is about a connection whose widths exceed each
other. -/
theorem exists_isAbout_of_mem_idWidthCompatibility (h : ∀ e ∈ ctx.diagram.edges, e.HasHandles)
    (hus : idWidthCompatibility ctx = .ok us) (hv : v ∈ us) :
    ∃ e s t, (e, s, t) ∈ ctx.wired ∧ v.IsAbout e ∧
      ∃ widths, exceedingWidths? s.idWidth t.idWidth = some widths := by
  obtain ⟨conflict, hconflict, hv⟩ := (mem_of_mapM_eq_ok hus).mp hv
  obtain ⟨⟨e, s, t⟩, hwire, hconflict⟩ := List.mem_filterMap.mp hconflict
  obtain ⟨widths, hwidths, rfl⟩ := Option.map_eq_some_iff.mp hconflict
  have hwire := List.mem_of_mem_filter hwire
  obtain ⟨sourceText, _, hv⟩ := bind_eq_ok_iff.mp hv
  obtain ⟨targetText, _, hv⟩ := bind_eq_ok_iff.mp hv
  obtain rfl := Except.ok.inj hv
  obtain ⟨hs, ht⟩ := handles_of_mem_wired (h e (mem_wired_iff.mp hwire).1) hwire
  refine ⟨e, s, t, hwire, ⟨rfl, ?_, rfl⟩, widths, hwidths⟩
  rw [hs, ht]
  rfl

/-- A violation is about connections with the same ends only. -/
theorem resolveEdge_eq_of_isAbout {e f : Connection} (he : e.HasHandles) (hf : f.HasHandles)
    (hve : v.IsAbout e) (hvf : v.IsAbout f) (r : Resolver) : r.resolveEdge e = r.resolveEdge f := by
  have hcomponents := hve.components.symm.trans hvf.components
  have hinterfaces := hve.interfaces.symm.trans hvf.interfaces
  obtain ⟨id, source, target, sourceHandle, targetHandle, label⟩ := e
  obtain ⟨id', source', target', sourceHandle', targetHandle', label'⟩ := f
  obtain ⟨_, hs⟩ := Option.isSome_iff_exists.mp he.source
  obtain ⟨_, ht⟩ := Option.isSome_iff_exists.mp he.target
  obtain ⟨_, hs'⟩ := Option.isSome_iff_exists.mp hf.source
  obtain ⟨_, ht'⟩ := Option.isSome_iff_exists.mp hf.target
  obtain ⟨rfl, -⟩ := filled_eq_some_iff.mp hs
  obtain ⟨rfl, -⟩ := filled_eq_some_iff.mp ht
  obtain ⟨rfl, -⟩ := filled_eq_some_iff.mp hs'
  obtain ⟨rfl, -⟩ := filled_eq_some_iff.mp ht'
  simp only [Option.some.injEq, List.cons.injEq, and_true] at hcomponents
  simp only [Option.toList_some, List.singleton_append, Option.some.injEq, List.cons.injEq,
    and_true] at hinterfaces
  obtain ⟨rfl, rfl⟩ := hcomponents
  obtain ⟨rfl, rfl⟩ := hinterfaces
  rfl

end Checks

end DesignRules
