import DesignRules.Proofs.Analysis.Completion
import DesignRules.Proofs.Checks.Topology
import DesignRules.Proofs.Checks.Wirewise

/-! # Components without interfaces

A run lists the components for which no interfaces are known. No rule about interfaces
reports on them, and no rule about wired interfaces on a connection that misses an endpoint.
-/

namespace DesignRules

open Outcome

/-- The rules about the two interfaces of a connection. -/
def wireRules : List Rule :=
  [.roleMatching, .busTypeMatching, .signalDirection, .dataWidthMatching, .idWidthCompatibility,
   .addrWidthConsistency, .clockCompatibility, .clockDomainCrossing]

/-- The rules about single interfaces. -/
def portRules : List Rule :=
  [.unconnectedMaster, .unconnectedSlave, .requiredDataWidth, .dataWidthRange, .interfaceNaming]

/-- The same nodes with the edges whose two endpoints exist. -/
def Diagram.inner (d : Diagram) : Diagram := ⟨d.nodes, d.innerEdges⟩

/-! ## The list of gaps -/

namespace Design

variable {design : Design} {id : String}

theorem nodeInterfaces_eq_nil_iff {n : Node} : design.nodeInterfaces n = [] ↔
    n.interfaces = [] ∧
      ∀ c, (filled n.componentId).bind design.component? = some c → c.interfaces = [] := by
  unfold nodeInterfaces libraryInterfaces
  split
  case isTrue h =>
    rw [List.isEmpty_iff.mp h]
    cases (filled n.componentId).bind design.component? <;> simp
  case isFalse h =>
    rw [List.isEmpty_iff] at h
    exact iff_of_false h fun hn => h hn.1

theorem isGap_iff : design.isGap id ↔
    ∃ n, design.diagram.node? id = some n ∧ design.nodeInterfaces n = [] := by
  rw [isGap, interfaces, Diagram.hasNode_eq_isSome]
  cases design.diagram.node? id <;> simp

theorem mem_gaps_iff : id ∈ design.gaps ↔ ∃ n, design.diagram.node? id = some n ∧
    n.interfaces = [] ∧
      ∀ c, (filled n.componentId).bind design.component? = some c → c.interfaces = [] := by
  simp only [← nodeInterfaces_eq_nil_iff]
  rw [gaps, List.mem_filter, isGap_iff, and_iff_right_iff_imp]
  rintro ⟨n, hn, -⟩
  exact Diagram.mem_ids_iff.mpr (Diagram.hasNode_of_node? hn)

theorem interfaces_eq_nil_of_mem_gaps (h : id ∈ design.gaps) : design.interfaces id = [] :=
  List.isEmpty_iff.mp (Bool.and_eq_true_iff.mp (List.mem_filter.mp h).2).2

theorem pairwise_position_gaps (design : Design) :
    design.gaps.Pairwise fun a b => design.diagram.position a < design.diagram.position b :=
  Diagram.pairwise_position_ids.filter _

end Design

/-! ## Checks that spare gaps -/

/-- Nothing that the check finds affects a component without interfaces. -/
def Check.SparesGaps (check : Check) : Prop :=
  ∀ ctx vs, check ctx = .ok vs → ∀ v ∈ vs, ∀ id, v.Affects id → ctx.interfaces id ≠ []

namespace Check

variable {check : Check} {ctx ctx' : Context} {vs : List Violation} {v : Violation}

/-- What a check of wired interfaces reports names the connection and its two ends. -/
theorem IsWirewise.exists_wire (h : check.IsWirewise) (hvs : check ctx = .ok vs) (hv : v ∈ vs) :
    ∃ wire ∈ ctx.wired, v.affectedComponents = some [wire.1.source, wire.1.target] ∧
      v.affectedConnections = some (edgeIds [wire.1]) := by
  obtain ⟨judge, breach?, h⟩ := h
  rw [h.eq_gather] at hvs
  obtain ⟨⟨e, s, t⟩, hwire, us, hus, hv⟩ := (mem_gather_iff hvs).mp hv
  have houtline := h.outline_judge ctx e s t
  rw [hus] at houtline
  obtain ⟨b, -, hb⟩ := map_eq_ok_iff.mp houtline.symm
  have hmem : v.outline ∈ (b.map (·.outlineAt e)).toList := by
    rw [hb]
    exact List.mem_map_of_mem hv
  obtain ⟨breach, -, hbreach⟩ := Option.map_eq_some_iff.mp (Option.mem_toList.mp hmem)
  exact ⟨_, hwire, congrArg Outline.components hbreach.symm,
    congrArg Outline.connections hbreach.symm⟩

theorem IsWirewise.sparesGaps (h : check.IsWirewise) : check.SparesGaps := by
  rintro ctx vs hvs v hv id ⟨ids, hids, hid⟩
  obtain ⟨⟨e, s, t⟩, hwire, hcomponents, -⟩ := h.exists_wire hvs hv
  obtain ⟨⟨-, hs⟩, -, ht⟩ := Checks.ends_of_mem_wired hwire
  rw [hcomponents] at hids
  obtain rfl := Option.some_inj.mp hids
  rcases List.mem_pair.mp hid with rfl | rfl
  · exact List.ne_nil_of_mem hs
  · exact List.ne_nil_of_mem ht

/-- A check whose findings each affect the component of an interface. -/
theorem sparesGaps_of_ports (h : ∀ ctx vs, check ctx = .ok vs → ∀ v ∈ vs,
    ∃ id, ∃ i ∈ ctx.interfaces id, v.affectedComponents = some [id]) : check.SparesGaps := by
  rintro ctx vs hvs v hv id ⟨ids, hids, hid⟩
  obtain ⟨other, i, hi, hcomponents⟩ := h ctx vs hvs v hv
  rw [hcomponents] at hids
  obtain rfl := Option.some_inj.mp hids
  obtain rfl := List.mem_singleton.mp hid
  exact List.ne_nil_of_mem hi

/-- A check of wired interfaces says the same where the same interfaces are wired. -/
theorem IsWirewise.congr (h : check.IsWirewise) (hagree : ∀ id, ctx.AgreeAt ctx' id)
    (hwired : ctx.wired = ctx'.wired) : check ctx = check ctx' := by
  obtain ⟨judge, breach?, h⟩ := h
  rw [h.eq_gather, h.eq_gather, hwired]
  exact gather_congr fun wire _ =>
    h.judge_congr ctx ctx' wire.1 wire.2 (hagree wire.1.source) (hagree wire.1.target)

end Check

namespace Checks

open Check

variable {ctx : Context} {id : String} {i : Interface}

theorem exists_of_mem_ports {port : String × Interface} (h : port ∈ ports ctx) :
    port.2 ∈ ctx.interfaces port.1 := by
  obtain ⟨n, _, hport⟩ := List.mem_flatMap.mp h
  obtain ⟨i, hi, rfl⟩ := List.mem_map.mp hport
  exact hi

theorem sparesGaps_unconnectedInterfaces : (ofPure unconnectedInterfaces).SparesGaps := by
  refine sparesGaps_of_ports fun ctx vs hvs v hv => ?_
  obtain rfl := ofPure_eq_ok_iff.mp hvs
  obtain ⟨n, _, hn⟩ := List.mem_flatMap.mp hv
  obtain ⟨i, hi, hfound⟩ := List.mem_filterMap.mp hn
  split at hfound
  case isTrue => cases hfound
  case isFalse =>
    refine ⟨n.id, i, hi, ?_⟩
    unfold unconnected? at hfound
    split at hfound <;> cases hfound <;> rfl

theorem components_of_widthViolation? {v : Violation}
    (h : widthViolation? ctx id i = .ok (some v)) : v.affectedComponents = some [id] := by
  rcases eq_or_of_widthViolation? h with rfl | ⟨w, h | h⟩
  · rfl
  · obtain ⟨text, _, rfl⟩ := map_eq_ok_iff.mp h
    rfl
  · obtain ⟨text, _, h⟩ := bind_eq_ok_iff.mp h
    obtain ⟨standard, _, h⟩ := bind_eq_ok_iff.mp h
    obtain rfl := Except.ok.inj h
    rfl

theorem sparesGaps_dataWidths : Check.SparesGaps dataWidths := by
  refine sparesGaps_of_ports fun ctx vs hvs v hv => ?_
  obtain ⟨port, hport, hv⟩ := exists_widthViolation?_of_mem_dataWidths hvs hv
  exact ⟨port.1, port.2, exists_of_mem_ports hport, components_of_widthViolation? hv⟩

theorem sparesGaps_interfaceNaming : Check.SparesGaps interfaceNaming := by
  refine sparesGaps_of_ports fun ctx vs hvs v hv => ?_
  unfold interfaceNaming at hvs
  split at hvs
  case h_1 => cases hvs
  case h_2 =>
    obtain rfl := Except.ok.inj hvs
    obtain ⟨port, hport, rfl⟩ := List.mem_map.mp hv
    exact ⟨port.1, port.2, exists_of_mem_ports (List.mem_of_mem_filter hport), rfl⟩

/-- A long path starts at a component with an interface. -/
theorem interfaces_ne_nil_of_mem_longPaths {v : Violation} {path : List String}
    (hv : v ∈ longPaths ctx) (hpath : v.affectedComponents = some path)
    (hid : path.head? = some id) : ctx.interfaces id ≠ [] := by
  obtain ⟨start, hstart, hv⟩ := List.mem_flatMap.mp hv
  obtain ⟨p, hp, rfl⟩ := List.mem_map.mp hv
  obtain rfl := Option.some_inj.mp hpath
  obtain rfl := Option.some_inj.mp (hid.symm.trans (head?_of_mem_longFrom hp))
  obtain ⟨i, hi, -⟩ := hasMaster_iff.mp (List.mem_filter.mp hstart).2
  exact List.ne_nil_of_mem hi

end Checks

/-! ## Edges without an endpoint -/

theorem Context.agreeAt_inner (ctx : Context) (id : String) :
    (ctx.on ctx.diagram.inner).AgreeAt ctx id := by
  have hnode : ctx.diagram.inner.node? id = ctx.diagram.node? id := rfl
  exact ctx.agreeAt_on hnode

/-- An edge that misses an endpoint wires nothing. -/
theorem Context.wired_inner (ctx : Context) : (ctx.on ctx.diagram.inner).wired = ctx.wired := by
  have hends : ∀ e, (ctx.on ctx.diagram.inner).resolver.ends? e = ctx.resolver.ends? e :=
    fun e => Context.AgreeAt.ends? (ctx.agreeAt_inner e.source) (ctx.agreeAt_inner e.target)
  unfold Context.wired
  simp only [hends]
  change (ctx.diagram.edges.filter ctx.diagram.isInner).filterMap _ = _
  rw [List.filterMap_filter]
  refine List.filterMap_congr fun e _ => ?_
  cases h : ctx.diagram.isInner e with
  | true => rfl
  | false =>
    have hnone : ctx.resolver.ends? e = none := by
      have hinner : ctx.resolver.diagram.isInner e = false := h
      simp [Resolver.ends?, Resolver.resolveEdge, hinner]
    simp [hnone]

namespace Analysis

open Check Checks

variable {ctx : Context} {timestamp : String} {run : Run} {rule : Rule} {v : Violation}
  {id : String}

theorem check_inner {check : Check} (hcheck : check.IsWirewise) (ctx : Context) :
    check (ctx.on ctx.diagram.inner) = check ctx :=
  hcheck.congr ctx.agreeAt_inner ctx.wired_inner

/-- No check fails for want of the other edges. -/
theorem exists_run_inner (h : Analysis.run timestamp ctx = .ok run) :
    ∃ run', Analysis.run timestamp (ctx.on ctx.diagram.inner) = .ok run' := by
  have hchecks := exists_run_iff_checks.mp ⟨run, h⟩
  rw [← check_inner isWirewise_dataWidthMatching, ← check_inner isWirewise_idWidthCompatibility,
    ← check_inner isWirewise_addrWidthConsistency] at hchecks
  -- The other checks that may fail look at nodes only.
  exact exists_run_iff_checks.mpr hchecks

/-- Every rule about wired interfaces is reported by a check of wired interfaces. -/
theorem exists_reporter_isWirewise :
    ∀ rule ∈ wireRules, ∃ check, IsReporter check rule ∧ check.IsWirewise := by
  simp only [wireRules, List.forall_mem_cons, List.not_mem_nil, false_imp_iff, implies_true,
    and_true]
  exact
    ⟨⟨_, ⟨2, _, rfl, rfl, by decide⟩, isWirewise_roleMatching⟩,
      ⟨_, ⟨3, _, rfl, rfl, by decide⟩, isWirewise_busTypeMatching⟩,
      ⟨_, ⟨2, _, rfl, rfl, by decide⟩, isWirewise_roleMatching⟩,
      ⟨_, ⟨6, _, rfl, rfl, by decide⟩, isWirewise_dataWidthMatching⟩,
      ⟨_, ⟨7, _, rfl, rfl, by decide⟩, isWirewise_idWidthCompatibility⟩,
      ⟨_, ⟨8, _, rfl, rfl, by decide⟩, isWirewise_addrWidthConsistency⟩,
      ⟨_, ⟨9, _, rfl, rfl, by decide⟩, isWirewise_clockCompatibility⟩,
      ⟨_, ⟨16, _, rfl, rfl, by decide⟩, isWirewise_clockDomainCrossing⟩⟩

theorem exists_reporter_sparesGaps :
    ∀ rule ∈ wireRules ++ portRules, ∃ check, IsReporter check rule ∧ check.SparesGaps := by
  rw [List.forall_mem_append]
  constructor
  · intro rule hrule
    obtain ⟨check, hcheck, hwirewise⟩ := exists_reporter_isWirewise rule hrule
    exact ⟨check, hcheck, hwirewise.sparesGaps⟩
  · simp only [portRules, List.forall_mem_cons, List.not_mem_nil, false_imp_iff, implies_true,
      and_true]
    exact
      ⟨⟨_, ⟨5, _, rfl, rfl, by decide⟩, sparesGaps_unconnectedInterfaces⟩,
        ⟨_, ⟨5, _, rfl, rfl, by decide⟩, sparesGaps_unconnectedInterfaces⟩,
        ⟨_, ⟨19, _, rfl, rfl, by decide⟩, sparesGaps_dataWidths⟩,
        ⟨_, ⟨19, _, rfl, rfl, by decide⟩, sparesGaps_dataWidths⟩,
        ⟨_, ⟨21, _, rfl, rfl, by decide⟩, sparesGaps_interfaceNaming⟩⟩

theorem interfaces_ne_nil_of_affects (h : Analysis.run timestamp ctx = .ok run)
    (hv : v ∈ run.result.violations) (hr : rule ∈ wireRules ++ portRules)
    (hrule : v.ruleId = rule.code) (hid : v.Affects id) : ctx.interfaces id ≠ [] := by
  obtain ⟨check, hcheck, hspares⟩ := exists_reporter_sparesGaps rule hr
  obtain ⟨us, hus, hmem⟩ := hcheck.exists_mem h hv hrule
  exact hspares ctx us hus v.unnumbered hmem id hid

theorem interfaces_ne_nil_of_longPath (h : Analysis.run timestamp ctx = .ok run)
    (hv : v ∈ run.result.violations) (hrule : v.ruleId = Rule.longPath.code) {path : List String}
    (hpath : v.affectedComponents = some path) (hid : path.head? = some id) :
    ctx.interfaces id ≠ [] := by
  have hmem := Run.mem_findings_iff.mpr ⟨v, hv, hrule, rfl⟩
  rw [findings_longPath h] at hmem
  exact interfaces_ne_nil_of_mem_longPaths hmem hpath hid

/-- What a rule about wired interfaces reports is about an edge whose two endpoints exist. -/
theorem exists_inner_edge (h : Analysis.run timestamp ctx = .ok run)
    (hv : v ∈ run.result.violations) (hr : rule ∈ wireRules) (hrule : v.ruleId = rule.code) :
    ∃ e ∈ ctx.diagram.edges, ctx.diagram.hasNode e.source ∧ ctx.diagram.hasNode e.target ∧
      v.affectedComponents = some [e.source, e.target] ∧
      v.affectedConnections = some (edgeIds [e]) := by
  obtain ⟨check, hcheck, hwirewise⟩ := exists_reporter_isWirewise rule hr
  obtain ⟨us, hus, hmem⟩ := hcheck.exists_mem h hv hrule
  obtain ⟨⟨e, s, t⟩, hwire, hcomponents, hconnections⟩ := hwirewise.exists_wire hus hmem
  obtain ⟨⟨hsource, -⟩, htarget, -⟩ := ends_of_mem_wired hwire
  exact ⟨e, (mem_wired_iff.mp hwire).1, hsource, htarget, hcomponents, hconnections⟩

theorem findings_inner {run' : Run} (h : Analysis.run timestamp ctx = .ok run)
    (h' : Analysis.run timestamp (ctx.on ctx.diagram.inner) = .ok run') (hr : rule ∈ wireRules) :
    run'.findings rule = run.findings rule := by
  obtain ⟨check, ⟨i, rules, hi, hrules, hmem⟩, hwirewise⟩ := exists_reporter_isWirewise rule hr
  obtain ⟨us, hus, hfindings⟩ := findings_eq h hi hrules hmem
  obtain ⟨us', hus', hfindings'⟩ := findings_eq h' hi hrules hmem
  rw [check_inner hwirewise, hus] at hus'
  obtain rfl := Except.ok.inj hus'
  rw [hfindings, hfindings']

/-- A run lists exactly the nodes without interfaces of their own or in the library, each once and
in the order of their first entries. Nothing of a rule about interfaces affects them and no long
path starts at them. The rules about wired interfaces report on edges between existing nodes, and
the same without the other edges. -/
theorem run_spares_gaps (h : Analysis.run timestamp ctx = .ok run) :
    (run.gaps.Nodup ∧
      run.gaps.Pairwise (fun a b => ctx.diagram.position a < ctx.diagram.position b) ∧
      ∀ id, id ∈ run.gaps ↔ ∃ n, ctx.diagram.node? id = some n ∧ n.interfaces = [] ∧
        ∀ c, (filled n.componentId).bind ctx.design.component? = some c → c.interfaces = []) ∧
    (∀ id ∈ run.gaps, ∀ v ∈ run.result.violations,
      (∀ rule ∈ wireRules ++ portRules, v.ruleId = rule.code → ¬ v.Affects id) ∧
      (v.ruleId = Rule.longPath.code → ∀ path, v.affectedComponents = some path →
        path.head? ≠ some id)) ∧
    (∀ rule ∈ wireRules, ∀ v ∈ run.result.violations, v.ruleId = rule.code →
      ∃ e ∈ ctx.diagram.edges, ctx.diagram.hasNode e.source ∧ ctx.diagram.hasNode e.target ∧
        v.affectedComponents = some [e.source, e.target] ∧
        v.affectedConnections = some (edgeIds [e])) ∧
    ∃ run', Analysis.run timestamp (ctx.on ctx.diagram.inner) = .ok run' ∧
      ∀ rule ∈ wireRules, run'.findings rule = run.findings rule := by
  have hgaps : run.gaps = ctx.design.gaps := by
    obtain ⟨vs, -, rfl⟩ := run_eq_ok_iff.mp h
    rfl
  have hordered := Design.pairwise_position_gaps ctx.design
  refine ⟨⟨?_, hgaps ▸ hordered, fun id => ?_⟩, fun id hid v hv => ⟨?_, ?_⟩, ?_, ?_⟩
  · rw [hgaps]
    exact hordered.imp fun hlt heq => by simp [heq] at hlt
  · rw [hgaps]
    exact Design.mem_gaps_iff
  · intro rule hr hrule haffects
    rw [hgaps] at hid
    exact interfaces_ne_nil_of_affects h hv hr hrule haffects
      (Design.interfaces_eq_nil_of_mem_gaps hid)
  · intro hrule path hpath hhead
    rw [hgaps] at hid
    exact interfaces_ne_nil_of_longPath h hv hrule hpath hhead
      (Design.interfaces_eq_nil_of_mem_gaps hid)
  · intro rule hr v hv hrule
    exact exists_inner_edge h hv hr hrule
  · obtain ⟨run', h'⟩ := exists_run_inner h
    exact ⟨run', h', fun rule hr => findings_inner h h' hr⟩

/-- A processor wired to a memory of another bus type, to a component without interfaces and to a
missing one. -/
def bareBridge : Context where
  design :=
    { diagram :=
        { nodes :=
            [⟨"cpu", "CPU", none, none, none, none, none, none,
               [⟨"m", "m_axi", some "axi", .master, some (.number 64), none, none, none, none,
                 false, []⟩]⟩,
             ⟨"bridge", "Bridge", none, none, none, none, none, none, []⟩,
             ⟨"mem", "Memory", none, none, none, none, none, none,
               [⟨"s", "s_apb", some "apb", .slave, some (.number 32), none, none, none, none,
                 false, []⟩]⟩]
          edges :=
            [⟨"e0", "cpu", "bridge", none, none, none⟩, ⟨"e1", "cpu", "mem", none, none, none⟩,
             ⟨"e2", "cpu", "dsp", none, none, none⟩] }
      library := [] }
  options := ⟨true⟩
  settings := Settings.default
  arbiter := none

/-- The bus types of the processor and the memory are compared, also without the other edges, and
nothing about interfaces is said of the bridge. -/
theorem run_bareBridge : ∃ run run',
    Analysis.run "" bareBridge = .ok run ∧
    Analysis.run "" (bareBridge.on bareBridge.diagram.inner) = .ok run' ∧
    run.gaps = ["bridge"] ∧
    run.result.violations.map (·.ruleId) = ["DRC-CONN-003", "DRC-CONN-002"] ∧
    run'.findings .busTypeMatching = run.findings .busTypeMatching ∧
    ∀ v ∈ run.result.violations, ∀ rule ∈ wireRules ++ portRules, v.ruleId = rule.code →
      ¬ v.Affects "bridge" := by
  have hfound : (Analysis.run "" bareBridge).map
      (fun run => (run.gaps, run.result.violations.map (·.ruleId))) =
        .ok (["bridge"], ["DRC-CONN-003", "DRC-CONN-002"]) := by
    decide +kernel
  obtain ⟨run, h, hrun⟩ := map_eq_ok_iff.mp hfound
  obtain ⟨hgaps, hcodes⟩ := Prod.mk.inj hrun
  obtain ⟨-, hspares, -, run', h', hfindings⟩ := run_spares_gaps h
  have hbridge : "bridge" ∈ run.gaps := hgaps ▸ List.mem_singleton_self _
  exact ⟨run, run', h, h', hgaps, hcodes, hfindings .busTypeMatching (by decide),
    fun v hv => (hspares "bridge" hbridge v hv).1⟩

end Analysis

end DesignRules
