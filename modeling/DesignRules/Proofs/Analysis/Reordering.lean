import DesignRules.Proofs.Analysis.Completion
import DesignRules.Proofs.Checks.Itemwise
import DesignRules.Proofs.Checks.Topology
import DesignRules.Proofs.Graph.Reordering

/-! # Analysing a reordered diagram

The verdict does not depend on the order of the edges, nor on the order of nodes with
distinct identifiers. Every rule is broken as often as before, though the violations may
come in another order and name the components of a circuit from another one on.
-/

namespace DesignRules

open Check Outcome

/-- The rule that is broken and how severely. -/
def Violation.kind (v : Violation) : String × Severity := (v.ruleId, v.severity)

/-! ## What is known in a reordered diagram -/

namespace Diagram.Reorders

variable {d d' : Diagram} (h : d.Reorders d')

include h

theorem agreeAt (ctx : Context) (id : String) : (ctx.on d).AgreeAt (ctx.on d') id :=
  ctx.agreeAt_on (h.node?_eq id)

theorem agreeAround (ctx : Context) (id : String) : (ctx.on d).AgreeAround (ctx.on d') id where
  toAgreeAt := h.agreeAt ctx id
  outDegree := h.outDegree_eq id
  inDegree := h.inDegree_eq id
  connected := fun _ => Checks.contains_connectedPorts_congr (fun _ _ => h.edges.mem_iff)
    fun _ _ => ⟨h.agreeAt ctx _, h.agreeAt ctx _⟩

end Diagram.Reorders

/-- In the second context the check ends as well, and it finds as many violations of each
kind. -/
def Check.Keeps (check : Check) (ctx ctx' : Context) : Prop :=
  ∀ us, check ctx = .ok us →
    ∃ us', check ctx' = .ok us' ∧ (us.map Violation.kind).Perm (us'.map Violation.kind)

namespace Check

variable {check : Check} {ctx ctx' : Context} {d d' : Diagram} {rule : Rule}

/-- A check of the members of a list that comes in another order. -/
theorem keeps_of_gather {α : Type} {items : Diagram → List α}
    (judge : Context → α → Except CheckFailure (List Violation))
    (hcheck : ∀ ctx, check ctx = gather (judge ctx) (items ctx.diagram))
    (hitems : (items d).Perm (items d'))
    (hlocal : ∀ a, judge (ctx.on d) a = judge (ctx.on d') a) :
    check.Keeps (ctx.on d) (ctx.on d') := by
  intro us hus
  rw [hcheck] at hus
  obtain ⟨us', hus', hperm⟩ := gather_perm hitems hus
  refine ⟨us', ?_, hperm.map _⟩
  rw [hcheck, ← hus']
  exact gather_congr fun a _ => (hlocal a).symm

theorem keeps_of_isEdgewise (h : d.Reorders d') (hcheck : check.IsEdgewise) :
    check.Keeps (ctx.on d) (ctx.on d') := by
  obtain ⟨judge, hjudge, hlocal⟩ := hcheck
  exact keeps_of_gather judge hjudge h.edges fun e =>
    hlocal _ _ e (h.agreeAt ctx e.source) (h.agreeAt ctx e.target)

theorem keeps_of_isNodewise (h : d.Reorders d') (hcheck : check.IsNodewise) :
    check.Keeps (ctx.on d) (ctx.on d') := by
  obtain ⟨judge, hjudge, hlocal⟩ := hcheck
  exact keeps_of_gather judge hjudge h.nodes fun n =>
    hlocal (ctx.on d) (ctx.on d') n n ⟨rfl, rfl, rfl, rfl⟩ ⟨_, rfl⟩ (h.agreeAround ctx n.id)

theorem map_kind_eq_replicate (h : check.ReportsOnly [rule]) (hr : rule ≠ .signalDirection)
    {us : List Violation} (hus : check ctx = .ok us) :
    us.map Violation.kind = List.replicate us.length (rule.code, rule.severity) := by
  refine List.eq_replicate_iff.mpr ⟨List.length_map _, ?_⟩
  simp only [List.forall_mem_map]
  intro v hv
  obtain ⟨other, hother, hrep⟩ := h ctx us hus v hv
  obtain rfl := List.mem_singleton.mp hother
  rw [Violation.kind, hrep.ruleId_eq, hrep.severity_eq hr]

/-- For a check of a single rule only the number of violations counts. -/
theorem keeps_of_length (h : check.ReportsOnly [rule]) (hr : rule ≠ .signalDirection)
    (hlength : ∀ us, check ctx = .ok us → ∃ us', check ctx' = .ok us' ∧ us.length = us'.length) :
    check.Keeps ctx ctx' := by
  intro us hus
  obtain ⟨us', hus', hlength⟩ := hlength us hus
  refine ⟨us', hus', ?_⟩
  rw [map_kind_eq_replicate h hr hus, map_kind_eq_replicate h hr hus', hlength]

theorem keeps_ofPure {check : Context → List Violation} (h : (ofPure check).ReportsOnly [rule])
    (hr : rule ≠ .signalDirection) (hlength : (check ctx).length = (check ctx').length) :
    (ofPure check).Keeps ctx ctx' := by
  refine keeps_of_length h hr fun us hus => ⟨check ctx', rfl, ?_⟩
  rw [← hlength, ofPure_eq_ok_iff.mp hus]

end Check

namespace Checks

variable {ctx : Context} {d d' : Diagram} (h : d.Reorders d')

include h

-- The members of a group change places as well and the violations list them, so that for the
-- checks of groups only the number of violations is the same.

theorem keeps_portUniqueness : (ofPure portUniqueness).Keeps (ctx.on d) (ctx.on d') := by
  have huses : (d.edges.flatMap references).Perm (d'.edges.flatMap references) :=
    h.edges.flatMap_right references
  refine keeps_ofPure reportsOnly_portUniqueness (by decide) ?_
  rw [length_portUniqueness, length_portUniqueness]
  exact countP_several_of_perm (huses.map _)

theorem isContended_of_perm {node : String} {edges edges' : List Connection}
    (hedges : edges.Perm edges') :
    isContended (ctx.on d) node edges = isContended (ctx.on d') node edges' := by
  have hdrivers : (drivers edges).length = (drivers edges').length := by
    rw [length_drivers, length_drivers, (eraseDups_perm (hedges.map _)).length_eq]
  rw [isContended_congr (h.agreeAt ctx node), isContended, hdrivers, ← isContended]

theorem keeps_multipleMasters : (ofPure multipleMasters).Keeps (ctx.on d) (ctx.on d') := by
  have hdriven : (d.edges.filter fun e => d.hasNode e.target).Perm
      (d'.edges.filter fun e => d'.hasNode e.target) := by
    simp only [h.hasNode_eq]
    exact h.edges.filter _
  refine keeps_ofPure reportsOnly_multipleMasters (by decide) ?_
  simp only [multipleMasters, List.length_map, ← List.countP_eq_length_filter]
  exact countP_groupBy_of_perm
    (p := fun (port : String × String) edges => isContended (ctx.on d) port.1 edges)
    (q := fun (port : String × String) edges => isContended (ctx.on d') port.1 edges) hdriven
    fun port => isContended_of_perm h (hdriven.filter _)

theorem addressRanges_perm {rs : List AddressRange} (hrs : addressRanges (ctx.on d) = .ok rs) :
    ∃ rs', addressRanges (ctx.on d') = .ok rs' ∧ rs.Perm rs' := by
  have hoccupied : (d.nodes.map d.occupied).Perm (d'.nodes.map d'.occupied) := by
    have heq : d.occupied = d'.occupied := funext fun n => occupied_on (h.agreeAt ctx n.id)
    rw [heq]
    exact h.nodes.map d'.occupied
  have hrs : rangesOf (d.nodes.map d.occupied) = .ok rs := hrs
  obtain ⟨hread, rfl⟩ := rangesOf_eq_ok_iff.mp hrs
  have hrs' : rangesOf (d'.nodes.map d'.occupied) =
      .ok ((d'.nodes.map d'.occupied).filterMap Occupied.range?) :=
    rangesOf_eq_ok_iff.mpr ⟨fun o ho => hread o (hoccupied.mem_iff.mpr ho), rfl⟩
  exact ⟨_, hrs', hoccupied.filterMap _⟩

theorem keeps_addressOverlap : Check.Keeps addressOverlap (ctx.on d) (ctx.on d') := by
  refine keeps_of_length reportsOnly_addressOverlap (by decide) fun us hus => ?_
  obtain ⟨rs, hrs, rfl⟩ := map_eq_ok_iff.mp hus
  obtain ⟨rs', hrs', hperm⟩ := addressRanges_perm h hrs
  refine ⟨_, map_eq_ok_iff.mpr ⟨rs', hrs', rfl⟩, ?_⟩
  rw [List.length_map, List.length_map, ← List.countP_eq_length_filter,
    ← List.countP_eq_length_filter]
  exact countP_pairs_of_perm (r := fun a b => a.overlaps b.base b.last) overlaps_comm hperm

theorem keeps_circularDependency : (ofPure circularDependency).Keeps (ctx.on d) (ctx.on d') := by
  refine keeps_ofPure reportsOnly_circularDependency (by decide) ?_
  rw [circularDependency_eq, circularDependency_eq, List.length_map, List.length_map]
  exact h.length_circuits_eq

theorem longFrom_perm (id : String) : (longFrom (ctx.on d) id).Perm (longFrom (ctx.on d') id) :=
  (h.terminalPaths_perm id _).filter _

theorem keeps_longPaths : (ofPure longPaths).Keeps (ctx.on d) (ctx.on d') := by
  have hlength : ∀ d : Diagram, (longPaths (ctx.on d)).length =
      ((d.ids.filter (hasMaster (ctx.on d))).flatMap (longFrom (ctx.on d))).length := by
    intro d
    have hmap := congrArg List.length (@map_components_longPaths (ctx.on d))
    rw [List.length_map, List.length_map] at hmap
    exact hmap
  have hmaster : hasMaster (ctx.on d) = hasMaster (ctx.on d') :=
    funext fun id => hasMaster_congr (h.agreeAt ctx id)
  have hpaths : ((d.ids.filter (hasMaster (ctx.on d))).flatMap (longFrom (ctx.on d))).Perm
      ((d'.ids.filter (hasMaster (ctx.on d'))).flatMap (longFrom (ctx.on d'))) := by
    rw [hmaster]
    exact (h.ids_perm.filter _).flatMap fun id _ => longFrom_perm h id
  refine keeps_ofPure reportsOnly_longPaths (by decide) ?_
  rw [hlength, hlength, hpaths.length_eq]

theorem keeps_uniqueLabels : (ofPure uniqueLabels).Keeps (ctx.on d) (ctx.on d') := by
  have hlength : ∀ d : Diagram, (uniqueLabels (ctx.on d)).length =
      (groupBy (·.label) (d.nodes.filter fun n => !hasBlankLabel n)).countP fun group =>
        decide (1 < group.2.length) := by
    intro d
    rw [uniqueLabels, List.length_map, ← List.countP_eq_length_filter, labelUses, List.countP_map]
    simp only [Function.comp_def, List.length_map]
    rfl
  refine keeps_ofPure reportsOnly_uniqueLabels (by decide) ?_
  rw [hlength, hlength, countP_several_of_perm ((h.nodes.filter _).map _)]

theorem keeps_interfaceNaming : Check.Keeps interfaceNaming (ctx.on d) (ctx.on d') := by
  rcases interfaceNaming_eq_or (nameTest ctx) with ⟨failure, hfail⟩ | ⟨check, hcheck, heq⟩
  · intro us hus
    rw [hfail (ctx.on d) rfl] at hus
    cases hus
  · intro us hus
    rw [heq (ctx.on d) rfl] at hus
    rw [heq (ctx.on d') rfl]
    exact keeps_of_isNodewise h hcheck us hus

end Checks

namespace Analysis

open Checks

variable {ctx : Context} {d d' : Diagram} {timestamp : String} {run run' : Run}

theorem keeps_checks (ctx : Context) (h : d.Reorders d') :
    ∀ check ∈ checks, check.Keeps (ctx.on d) (ctx.on d') :=
  forall_mem_checks (fun _ => keeps_of_isEdgewise h) (fun _ => keeps_of_isNodewise h)
    (keeps_portUniqueness h) (keeps_multipleMasters h) (keeps_addressOverlap h)
    (keeps_circularDependency h) (keeps_longPaths h) (keeps_uniqueLabels h)
    (keeps_interfaceNaming h)

theorem exists_run_of_reorders (h : d.Reorders d')
    (hrun : ∃ run, Analysis.run timestamp (ctx.on d) = .ok run) :
    ∃ run, Analysis.run timestamp (ctx.on d') = .ok run := by
  rw [exists_run_iff_forall_checks] at hrun ⊢
  intro check hcheck
  obtain ⟨us, hus⟩ := hrun check hcheck
  obtain ⟨us', hus', -⟩ := keeps_checks ctx h check hcheck us hus
  exact ⟨us', hus'⟩

theorem map_kind_perm (h : d.Reorders d') (hrun : Analysis.run timestamp (ctx.on d) = .ok run)
    (hrun' : Analysis.run timestamp (ctx.on d') = .ok run') :
    (run.result.violations.map Violation.kind).Perm
      (run'.result.violations.map Violation.kind) := by
  have hkind : ∀ vs : List Violation,
      (vs.map Violation.unnumbered).map Violation.kind = vs.map Violation.kind := by
    intro vs
    rw [List.map_map]
    rfl
  obtain ⟨us, hus, hperm⟩ :=
    exists_gather_map_perm (keeps_checks ctx h) (map_unnumbered_run hrun)
  obtain rfl := Except.ok.inj (hus.symm.trans (map_unnumbered_run hrun'))
  rwa [hkind, hkind] at hperm

theorem gaps_perm (h : d.Reorders d') :
    (ctx.on d).design.gaps.Perm (ctx.on d').design.gaps := by
  have hgap : (ctx.on d).design.isGap = (ctx.on d').design.isGap :=
    funext fun id => (h.agreeAt ctx id).isGap
  rw [Design.gaps, Design.gaps, hgap]
  exact h.ids_perm.filter _

theorem summaryOf_eq_of_perm {vs vs' : List Violation}
    (h : (vs.map Violation.kind).Perm (vs'.map Violation.kind)) : Summary.of vs = Summary.of vs' := by
  have hcount : ∀ severity, Summary.count severity vs = Summary.count severity vs' := by
    intro severity
    have hkinds := h.countP_eq fun kind => kind.2 == severity
    rw [List.countP_map, List.countP_map, List.countP_eq_length_filter,
      List.countP_eq_length_filter] at hkinds
    exact congrArg Int.ofNat hkinds
  rw [Summary.of, hcount, hcount, hcount, ← Summary.of]

/-- A run on a reordered diagram ends as well, and breaks every rule as often and as severely,
sums up and judges the same and misses the interfaces of the same nodes. If only the edges
are reordered, the circuits are the same list. -/
theorem run_of_reorders (h : d.Reorders d') (ctx : Context) (timestamp : String) :
    ((∃ run, Analysis.run timestamp (ctx.on d) = .ok run) ↔
      ∃ run, Analysis.run timestamp (ctx.on d') = .ok run) ∧
    (∀ run run', Analysis.run timestamp (ctx.on d) = .ok run →
      Analysis.run timestamp (ctx.on d') = .ok run' →
      (∀ code, run.result.violations.countP (·.ruleId == code) =
        run'.result.violations.countP (·.ruleId == code)) ∧
      (∀ code severity,
        run.result.violations.countP (fun v => v.ruleId == code && v.severity == severity) =
          run'.result.violations.countP fun v => v.ruleId == code && v.severity == severity) ∧
      run.result.summary = run'.result.summary ∧
      run.result.passed = run'.result.passed ∧
      run.gaps.Perm run'.gaps) ∧
    (d.nodes = d'.nodes → d.circuits = d'.circuits) := by
  refine ⟨⟨exists_run_of_reorders h, exists_run_of_reorders h.symm⟩,
    fun run run' hrun hrun' => ?_, h.circuits_eq⟩
  have hkinds := map_kind_perm h hrun hrun'
  obtain ⟨hsummary, hpassed⟩ := summary_eq hrun
  obtain ⟨hsummary', hpassed'⟩ := summary_eq hrun'
  have hsum : run.result.summary = run'.result.summary := by
    rw [hsummary, hsummary', summaryOf_eq_of_perm hkinds]
  refine ⟨fun code => ?_, fun code severity => ?_, hsum, ?_, ?_⟩
  · have hcount := hkinds.countP_eq fun kind => kind.1 == code
    rwa [List.countP_map, List.countP_map] at hcount
  · have hcount := hkinds.countP_eq fun kind => kind.1 == code && kind.2 == severity
    rwa [List.countP_map, List.countP_map] at hcount
  · rw [hpassed, hpassed', hsum]
  · obtain ⟨_, -, rfl⟩ := run_eq_ok_iff.mp hrun
    obtain ⟨_, -, rfl⟩ := run_eq_ok_iff.mp hrun'
    exact gaps_perm h

/-- A ring of three components with a branch that is doubled, a handle that is used twice and
an edge that leads nowhere. -/
def busRing : Diagram where
  nodes :=
    [⟨"cpu", "CPU", none, none, none, none, none, none,
       [⟨"m", "m_axi", some "axi", .master, some (.number 64), none, none, none, none, false, []⟩]⟩,
     ⟨"bus", "Bus", none, none, none, some "0x1000", some "4KB", none, []⟩,
     ⟨"ram", "RAM", none, none, none, some "0x1800", some "4KB", none, []⟩,
     ⟨"rom", "RAM", none, none, none, none, none, none, []⟩]
  edges :=
    [⟨"e0", "cpu", "bus", some "m", none, none⟩, ⟨"e1", "bus", "ram", none, none, none⟩,
     ⟨"e2", "ram", "cpu", none, none, none⟩, ⟨"e3", "cpu", "rom", some "m", none, none⟩,
     ⟨"e4", "bus", "rom", none, none, none⟩, ⟨"e5", "bus", "rom", none, none, none⟩,
     ⟨"e6", "rom", "gone", none, none, none⟩]

def turnedRing : Diagram := ⟨busRing.nodes, busRing.edges.reverse⟩

def reversedRing : Diagram := ⟨busRing.nodes.reverse, busRing.edges.reverse⟩

/-- The reversed ring starts at its memory and not at its processor, and yet every rule is
broken as often. With the edges alone reversed it starts at the processor as before. -/
theorem run_ring_reversed : busRing.Reorders reversedRing ∧ busRing.Reorders turnedRing ∧
    (∃ run run', Analysis.run "" (Context.usual.on busRing) = .ok run ∧
      Analysis.run "" (Context.usual.on reversedRing) = .ok run' ∧
      (∀ code, run.result.violations.countP (·.ruleId == code) =
        run'.result.violations.countP (·.ruleId == code)) ∧
      run.result.summary = run'.result.summary ∧ run.gaps.Perm run'.gaps) ∧
    busRing.circuits = turnedRing.circuits := by
  have hreversed : busRing.Reorders reversedRing :=
    ⟨(List.reverse_perm _).symm, (List.reverse_perm _).symm, .inr (by decide)⟩
  have hturned : busRing.Reorders turnedRing := ⟨(List.reverse_perm _).symm, .refl _, .inl rfl⟩
  have hends : (Analysis.run "" (Context.usual.on busRing)).map (fun _ => ()) = .ok () := by
    decide +kernel
  obtain ⟨run, hrun, -⟩ := map_eq_ok_iff.mp hends
  obtain ⟨hiff, hruns, -⟩ := run_of_reorders hreversed .usual ""
  obtain ⟨run', hrun'⟩ := hiff.mp ⟨run, hrun⟩
  obtain ⟨hcodes, -, hsummary, -, hgaps⟩ := hruns run run' hrun hrun'
  obtain ⟨-, -, hcircuits⟩ := run_of_reorders hturned .usual ""
  exact ⟨hreversed, hturned, ⟨run, run', hrun, hrun', hcodes, hsummary, hgaps⟩, hcircuits rfl⟩

end Analysis

end DesignRules
