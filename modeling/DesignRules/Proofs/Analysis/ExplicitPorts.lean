import DesignRules.Proofs.Checks.Itemwise
import DesignRules.Proofs.Checks.Topology
import DesignRules.Proofs.Graph.Agreement

/-! # Explicit ports

A connection may leave its ports to be found. If the ports of each component have
identifiers of their own, naming those that are found changes only what is said about ports
that are shared.
-/

namespace DesignRules

open Outcome

/-- The connection with the ports that are found for it in place of the handles that it lacks. -/
def Resolver.named (r : Resolver) (e : Connection) : Connection :=
  { e with
    sourceHandle := e.sourceHandle <|> (r.resolveEdge e).1.map (·.id)
    targetHandle := e.targetHandle <|> (r.resolveEdge e).2.map (·.id) }

namespace Context

/-- The same analysis with all ports that can be found named. -/
def explicit (ctx : Context) : Context :=
  ctx.on ⟨ctx.diagram.nodes, ctx.diagram.edges.map ctx.resolver.named⟩

/-- The interfaces of each component have identifiers, all different. -/
structure HasPortIds (ctx : Context) : Prop where
  distinct : ∀ n ∈ ctx.diagram.nodes, ((ctx.interfaces n.id).map (·.id)).Nodup
  present : ∀ n ∈ ctx.diagram.nodes, ∀ i ∈ ctx.interfaces n.id, i.id ≠ ""

end Context

/-! ## Resolution -/

namespace Resolver

variable {r : Resolver} {id : String} {handle : Option String} {direction : Direction}
  {e : Connection}

/-- The port that is found is found again under its identifier. -/
theorem pick?_named (hdistinct : ((r.interfaces id).map (·.id)).Nodup)
    (hpresent : ∀ i ∈ r.interfaces id, i.id ≠ "") :
    r.pick? id (handle <|> (r.pick? id handle direction).map (·.id)) direction =
      r.pick? id handle direction := by
  cases handle with
  | some handle => rfl
  | none =>
    cases hfound : r.pick? id none direction with
    | none => exact hfound
    | some i =>
      have hi : i ∈ r.interfaces id := Checks.mem_interfaces_of_pick? hfound
      have hfilled : filled (some i.id) = some i.id :=
        filled_eq_some_iff.mpr ⟨rfl, hpresent i hi⟩
      change r.pick? id (some i.id) direction = some i
      rw [pick?, hfilled]
      exact find?_eq_some_of_nodup hdistinct hi

theorem named_of_not_isInner (h : r.diagram.isInner e = false) : r.named e = e := by
  have hends : r.resolveEdge e = (none, none) := by simp [resolveEdge, h]
  obtain ⟨id, source, target, sourceHandle, targetHandle, label⟩ := e
  rw [named, hends]
  cases sourceHandle <;> cases targetHandle <;> rfl

/-- The two interfaces of a connection do not change when it names them. -/
theorem resolveEdge_named
    (hdistinct : ∀ id, r.diagram.hasNode id → ((r.interfaces id).map (·.id)).Nodup)
    (hpresent : ∀ id, r.diagram.hasNode id → ∀ i ∈ r.interfaces id, i.id ≠ "") :
    r.resolveEdge (r.named e) = r.resolveEdge e := by
  cases h : r.diagram.isInner e with
  | false => rw [named_of_not_isInner h]
  | true =>
    obtain ⟨hs, ht⟩ := Bool.and_eq_true_iff.mp h
    have hends : r.resolveEdge e = (r.sourceInterface? e, r.targetInterface? e) := if_pos h
    have hnamed : r.resolveEdge (r.named e) =
        (r.sourceInterface? (r.named e), r.targetInterface? (r.named e)) := if_pos h
    rw [hnamed, hends]
    refine congrArg₂ Prod.mk ?_ ?_
    · rw [sourceInterface?, named, hends]
      exact pick?_named (hdistinct _ hs) (hpresent _ hs)
    · rw [targetInterface?, named, hends]
      exact pick?_named (hdistinct _ ht) (hpresent _ ht)

end Resolver

/-- Naming a port touches the port that is touched without. -/
theorem Checks.touchedPort_named (node : String) (handle : Option String)
    (found : Option Interface) :
    touchedPort node (handle <|> found.map (·.id)) found = touchedPort node handle found := by
  cases handle with
  | some handle => rfl
  | none =>
    cases found with
    | none => rfl
    | some i =>
      change ((filled (some i.id)) <|> some i.id).map _ = (some i.id).map _
      by_cases h : i.id = "" <;> simp [filled, Option.filter_some, h]

/-! ## What is known in the explicit diagram -/

namespace Context

variable {ctx : Context}

theorem agreeAt_explicit (ctx : Context) (id : String) : ctx.explicit.AgreeAt ctx id := by
  have hnode : ctx.explicit.diagram.node? id = ctx.diagram.node? id := rfl
  exact ctx.agreeAt_on hnode

theorem targets_explicit (ctx : Context) : ctx.explicit.diagram.targets = ctx.diagram.targets := by
  funext id
  change (((ctx.diagram.edges.map ctx.resolver.named).filter ctx.diagram.isInner).filter
    (·.source == id)).map (·.target) = _
  rw [List.filter_map, List.filter_map, List.map_map]
  rfl

theorem circuits_explicit (ctx : Context) :
    ctx.explicit.diagram.circuits = ctx.diagram.circuits := by
  refine Diagram.circuits_congr rfl fun a b => ?_
  rw [← Diagram.mem_targets_iff, ← Diagram.mem_targets_iff, targets_explicit]

theorem terminalPaths_explicit (ctx : Context) :
    ctx.explicit.diagram.terminalPaths = ctx.diagram.terminalPaths := by
  have hagree : ctx.explicit.diagram.AgreeOn ctx.diagram Set.univ :=
    ⟨fun _ _ => rfl, fun id _ => congrFun ctx.targets_explicit id,
      fun _ _ _ _ => Set.mem_univ _⟩
  funext start depth
  exact hagree.terminalPaths_eq (Set.mem_univ start)

section PortIds

variable (h : ctx.HasPortIds)

include h

theorem HasPortIds.resolveEdge_named (e : Connection) :
    ctx.explicit.resolver.resolveEdge (ctx.resolver.named e) = ctx.resolver.resolveEdge e := by
  have hagree : ctx.explicit.resolver.resolveEdge (ctx.resolver.named e) =
      ctx.resolver.resolveEdge (ctx.resolver.named e) :=
    Context.AgreeAt.resolveEdge (ctx.agreeAt_explicit _) (ctx.agreeAt_explicit _)
  rw [hagree]
  refine Resolver.resolveEdge_named (fun id hid => ?_) fun id hid => ?_
  · obtain ⟨n, hn, rfl⟩ := List.mem_map.mp (Diagram.hasNode_iff.mp hid)
    exact h.distinct n hn
  · obtain ⟨n, hn, rfl⟩ := List.mem_map.mp (Diagram.hasNode_iff.mp hid)
    exact h.present n hn

theorem HasPortIds.wired_explicit : ctx.explicit.wired =
    ctx.wired.map fun wire => (ctx.resolver.named wire.1, wire.2) := by
  change (ctx.diagram.edges.map ctx.resolver.named).filterMap _ = _
  rw [List.filterMap_map, wired, List.map_filterMap]
  refine List.filterMap_congr fun e _ => ?_
  simp only [Function.comp_apply, Resolver.ends?, h.resolveEdge_named e, Option.map_map]
  rfl

theorem HasPortIds.connectedPorts_explicit :
    Checks.connectedPorts ctx.explicit = Checks.connectedPorts ctx := by
  change (ctx.diagram.edges.map ctx.resolver.named).flatMap _ = _
  rw [List.flatMap_map]
  refine List.flatMap_congr fun e _ => ?_
  rw [Checks.touchedPorts, h.resolveEdge_named e]
  exact congrArg₂ (fun s t => Option.toList s ++ Option.toList t)
    (Checks.touchedPort_named _ _ _) (Checks.touchedPort_named _ _ _)

theorem HasPortIds.agreeAround_explicit (id : String) : ctx.explicit.AgreeAround ctx id where
  toAgreeAt := ctx.agreeAt_explicit id
  outDegree := by
    change ((ctx.diagram.edges.map ctx.resolver.named).filter (·.source == id)).length = _
    rw [List.filter_map, List.length_map]
    rfl
  inDegree := by
    change ((ctx.diagram.edges.map ctx.resolver.named).filter (·.target == id)).length = _
    rw [List.filter_map, List.length_map]
    rfl
  connected := fun port => by rw [h.connectedPorts_explicit]

end PortIds

end Context

/-! ## The checks -/

/-- The outline is of a rule about ports that are shared. -/
def Outline.isShared (o : Outline) : Bool :=
  o.ruleId == Rule.multipleMasters.code || o.ruleId == Rule.portUniqueness.code

/-- The outlines of the violations that are not about shared ports. -/
def unsharedOutlines (vs : List Violation) : List Outline :=
  (vs.map Violation.outline).filter fun o => !o.isShared

theorem unsharedOutlines_append (us vs : List Violation) :
    unsharedOutlines (us ++ vs) = unsharedOutlines us ++ unsharedOutlines vs := by
  rw [unsharedOutlines, List.map_append, List.filter_append, ← unsharedOutlines,
    ← unsharedOutlines]

namespace Checks

open Check

variable {ctx : Context} {check : Check}

theorem map_outline_explicit (h : ctx.HasPortIds) (hcheck : check.IsWirewise) :
    (check ctx.explicit).map (List.map Violation.outline) =
      (check ctx).map (List.map Violation.outline) :=
  hcheck.map_outline_eq (k := id) h.wired_explicit fun _ _ => rfl

theorem eq_explicit_of_isNodewise (h : ctx.HasPortIds) (hcheck : check.IsNodewise) :
    check ctx.explicit = check ctx := by
  obtain ⟨judge, hjudge, hlocal⟩ := hcheck
  rw [hjudge, hjudge]
  exact gather_congr fun n _ => hlocal ctx.explicit ctx n n ⟨rfl, rfl, rfl, rfl⟩ ⟨_, rfl⟩
    (h.agreeAround_explicit n.id)

theorem endpointExistence_explicit (ctx : Context) :
    endpointExistence ctx.explicit = endpointExistence ctx := by
  change (ctx.diagram.edges.map ctx.resolver.named).flatMap _ = _
  rw [List.flatMap_map]
  rfl

theorem addressOverlap_explicit (ctx : Context) :
    addressOverlap ctx.explicit = addressOverlap ctx := by
  have hranges : addressRanges ctx.explicit = addressRanges ctx := by
    refine congrArg rangesOf (List.map_congr_left fun n _ => ?_)
    exact occupied_eq ⟨_, rfl⟩ (ctx.agreeAt_explicit n.id)
  rw [addressOverlap, addressOverlap, hranges]

theorem circularDependency_explicit (ctx : Context) :
    circularDependency ctx.explicit = circularDependency ctx :=
  circularDependency_congr ctx.circuits_explicit ctx.agreeAt_explicit

theorem longPaths_explicit (ctx : Context) : longPaths ctx.explicit = longPaths ctx := by
  have hids : ctx.explicit.diagram.ids = ctx.diagram.ids := rfl
  exact longPaths_congr hids ctx.terminalPaths_explicit rfl ctx.agreeAt_explicit

theorem interfaceNaming_explicit (h : ctx.HasPortIds) :
    interfaceNaming ctx.explicit = interfaceNaming ctx := by
  rcases interfaceNaming_eq_or (nameTest ctx) with ⟨failure, hfail⟩ | ⟨check, hcheck, heq⟩
  · rw [hfail ctx rfl, hfail ctx.explicit rfl]
  · rw [heq ctx rfl, heq ctx.explicit rfl]
    exact eq_explicit_of_isNodewise h hcheck

/-- Of a check of shared ports nothing is left. -/
theorem unsharedOutlines_eq_nil {rule : Rule} {check : Context → List Violation}
    (hcheck : (ofPure check).ReportsOnly [rule])
    (hrule : rule = .multipleMasters ∨ rule = .portUniqueness) (ctx : Context) :
    unsharedOutlines (check ctx) = [] := by
  rw [unsharedOutlines, List.filter_eq_nil_iff, List.forall_mem_map]
  intro v hv
  obtain ⟨other, hother, hrep⟩ := hcheck ctx _ rfl v hv
  obtain rfl := List.mem_singleton.mp hother
  have hcode : v.outline.ruleId = other.code := hrep.ruleId_eq
  rcases hrule with rfl | rfl <;> simp [Outline.isShared, hcode]

end Checks

namespace Analysis

open Check Checks

variable {ctx : Context} {timestamp : String} {run run' : Run}

theorem check_explicit (h : ctx.HasPortIds) : ∀ check ∈ checks,
    (check ctx.explicit).map unsharedOutlines = (check ctx).map unsharedOutlines := by
  have hsplit : ∀ found : Except CheckFailure (List Violation), found.map unsharedOutlines =
      (found.map (List.map Violation.outline)).map (List.filter fun o => !o.isShared) := by
    intro found
    cases found <;> rfl
  refine forall_mem_checks_of_isWirewise (fun check hcheck => ?_) ?_ (fun check hcheck => ?_)
    ?_ ?_ ?_ ?_ ?_ rfl ?_
  · rw [hsplit, hsplit, map_outline_explicit h hcheck]
  · rw [ofPure, ofPure, endpointExistence_explicit]
  · rw [eq_explicit_of_isNodewise h hcheck]
  · simp only [ofPure, Except.map,
      unsharedOutlines_eq_nil reportsOnly_portUniqueness (.inr rfl)]
  · simp only [ofPure, Except.map,
      unsharedOutlines_eq_nil reportsOnly_multipleMasters (.inl rfl)]
  · rw [addressOverlap_explicit]
  · rw [ofPure, ofPure, circularDependency_explicit]
  · rw [ofPure, ofPure, longPaths_explicit]
  · rw [interfaceNaming_explicit h]

theorem violations_explicit (h : ctx.HasPortIds) :
    (violations ctx.explicit).map unsharedOutlines = (violations ctx).map unsharedOutlines :=
  map_violations_congr rfl unsharedOutlines_append rfl unsharedOutlines_append (check_explicit h)

theorem unsharedOutlines_eq (h : ctx.HasPortIds) (hrun : Analysis.run timestamp ctx = .ok run)
    (hrun' : Analysis.run timestamp ctx.explicit = .ok run') :
    unsharedOutlines run'.result.violations = unsharedOutlines run.result.violations := by
  have hnumber : ∀ vs : List Violation,
      unsharedOutlines (vs.map Violation.unnumbered) = unsharedOutlines vs := by
    intro vs
    rw [unsharedOutlines, List.map_map]
    rfl
  have hviolations := violations_explicit h
  rw [map_unnumbered_run hrun, map_unnumbered_run hrun'] at hviolations
  rw [← hnumber, Except.ok.inj hviolations, hnumber]

/-- The findings of a rule in outline are the outlines of its code. -/
theorem map_outline_findings {rule : Rule} (hmasters : rule ≠ .multipleMasters)
    (hports : rule ≠ .portUniqueness) : (run.findings rule).map Violation.outline =
      (unsharedOutlines run.result.violations).filter (·.ruleId == rule.code) := by
  rw [unsharedOutlines, List.filter_filter, Run.findings, List.filter_map, List.filter_map,
    List.map_map]
  refine congrArg (List.map _) (List.filter_congr fun v _ => ?_)
  change (v.ruleId == rule.code) = (v.ruleId == rule.code && !v.outline.isShared)
  cases hrule : v.ruleId == rule.code with
  | false => rfl
  | true =>
    have hcode : v.outline.ruleId = rule.code := beq_iff_eq.mp hrule
    simp [Outline.isShared, hcode, Rule.code_injective.eq_iff, hmasters, hports]

/-- If the ports of each component have identifiers of their own, a run ends exactly if it ends
with all ports named that can be found. Both runs miss the interfaces of the same nodes, and both
report, rule by rule and altogether in the same order, breaches of the same severity by the same
components, interfaces and connections, except for ports that are shared. -/
theorem run_explicit (h : ctx.HasPortIds) (timestamp : String) :
    ((∃ run, Analysis.run timestamp ctx.explicit = .ok run) ↔
      ∃ run, Analysis.run timestamp ctx = .ok run) ∧
    ∀ run run', Analysis.run timestamp ctx = .ok run →
      Analysis.run timestamp ctx.explicit = .ok run' →
      (∀ rule, rule ≠ .multipleMasters → rule ≠ .portUniqueness →
        (run'.findings rule).map Violation.outline = (run.findings rule).map Violation.outline) ∧
      unsharedOutlines run'.result.violations = unsharedOutlines run.result.violations ∧
      run'.gaps = run.gaps := by
  constructor
  · have hviolations := violations_explicit h
    rw [Analysis.run, Analysis.run, exists_map_eq_ok_iff, exists_map_eq_ok_iff,
      ← exists_map_eq_ok_iff (f := unsharedOutlines), hviolations, exists_map_eq_ok_iff]
  intro run run' hrun hrun'
  have houtlines := unsharedOutlines_eq h hrun hrun'
  refine ⟨fun rule hmasters hports => ?_, houtlines, ?_⟩
  · rw [map_outline_findings hmasters hports, map_outline_findings hmasters hports, houtlines]
  · obtain ⟨_, -, rfl⟩ := run_eq_ok_iff.mp hrun
    obtain ⟨_, -, rfl⟩ := run_eq_ok_iff.mp hrun'
    rfl

/-- Two processors of different widths wired to one memory, without a handle. -/
def wiredByDefault : Context where
  design :=
    { diagram :=
        { nodes :=
            [⟨"c0", "CPU0", none, none, none, none, none, none,
               [⟨"m", "m_axi", some "axi", .master, some (.number 64), none, none, none, none,
                 false, []⟩]⟩,
             ⟨"c1", "CPU1", none, none, none, none, none, none,
               [⟨"m", "m_axi", some "axi", .master, some (.number 32), none, none, none, none,
                 false, []⟩]⟩,
             ⟨"mem", "Memory", none, none, none, none, none, none,
               [⟨"s", "s_axi", some "axi", .slave, some (.number 64), none, none, none, none,
                 false, []⟩]⟩]
          edges := [⟨"e0", "c0", "mem", none, none, none⟩, ⟨"e1", "c1", "mem", none, none, none⟩] }
      library := [] }
  options := ⟨false⟩
  settings := Settings.default
  arbiter := none

/-- Only with its name the port of the memory is found to be used twice. The widths are found to
differ in both runs. -/
theorem run_wiredByDefault_explicit : wiredByDefault.HasPortIds ∧ ∃ run run',
    Analysis.run "" wiredByDefault = .ok run ∧
    Analysis.run "" wiredByDefault.explicit = .ok run' ∧
    run.result.violations.map (·.ruleId) = ["DRC-CONN-005", "DRC-AXI-PARAM-001"] ∧
    run'.result.violations.map (·.ruleId) =
      ["DRC-CONN-008", "DRC-CONN-005", "DRC-AXI-PARAM-001"] ∧
    (run'.findings .dataWidthMatching).map Violation.outline =
      (run.findings .dataWidthMatching).map Violation.outline := by
  have hports : wiredByDefault.HasPortIds := ⟨by decide, by decide⟩
  have himplicit : (Analysis.run "" wiredByDefault).map (·.result.violations.map (·.ruleId)) =
      .ok ["DRC-CONN-005", "DRC-AXI-PARAM-001"] := by
    decide +kernel
  have hexplicit : (Analysis.run "" wiredByDefault.explicit).map
      (·.result.violations.map (·.ruleId)) =
        .ok ["DRC-CONN-008", "DRC-CONN-005", "DRC-AXI-PARAM-001"] := by
    decide +kernel
  obtain ⟨run, hrun, hcodes⟩ := map_eq_ok_iff.mp himplicit
  obtain ⟨run', hrun', hcodes'⟩ := map_eq_ok_iff.mp hexplicit
  obtain ⟨-, hruns⟩ := run_explicit hports ""
  obtain ⟨hfindings, -, -⟩ := hruns run run' hrun hrun'
  exact ⟨hports, run, run', hrun, hrun', hcodes, hcodes',
    hfindings .dataWidthMatching (by decide) (by decide)⟩

end Analysis

end DesignRules
