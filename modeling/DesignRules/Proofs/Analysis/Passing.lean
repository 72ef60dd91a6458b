import DesignRules.Proofs.Analysis.Findings
import DesignRules.Proofs.Checks.AddressMap
import DesignRules.Proofs.Checks.Attributes
import DesignRules.Proofs.Checks.Connections
import DesignRules.Proofs.Checks.Ports
import DesignRules.Proofs.Checks.Topology

/-! # Passing

A run passes exactly if the design is sound. Only eleven checks can find anything critical,
and each of them comes down to one condition on the design.
-/

namespace DesignRules

open Checks in
/-- What a design has to satisfy to pass. -/
@[mk_iff]
structure Context.Sound (ctx : Context) : Prop where
  endpoints : ∀ e ∈ ctx.diagram.edges, ctx.diagram.hasNode e.source ∧ ctx.diagram.hasNode e.target
  ports : (ctx.diagram.edges.flatMap Connection.namedPorts).Nodup
  wires : ∀ e ∈ ctx.diagram.edges, ∀ source target,
    ctx.resolver.resolveEdge e = (some source, some target) → source.Fits target
  drivers : ∀ e ∈ ctx.diagram.edges, ∀ f ∈ ctx.diagram.edges, drivenPort e = drivenPort f →
    ∀ n, ctx.diagram.node? e.target = some n → ctx.isArbiter n = false → e.source = f.source
  addresses : ctx.diagram.nodes.Pairwise fun m n =>
    ∀ address, ¬ (ctx.diagram.Occupies m address ∧ ctx.diagram.Occupies n address)
  acyclic : ∀ id, ¬ Relation.TransGen ctx.diagram.Joins id id
  labels : ∀ n ∈ ctx.diagram.nodes, ∃ c ∈ n.label.toList, ¬ Text.isBlank c
  widths : ∀ n ∈ ctx.diagram.nodes, ∀ i ∈ ctx.interfaces n.id,
    ∃ w, i.dataWidth = some w ∧ w.IsPositive

namespace Analysis

open Check Checks

variable {ctx : Context} {timestamp : String} {run : Run}

theorem clean_circularDependency_iff : (ofPure circularDependency).Clean ctx ↔
    ∀ id, ¬ Relation.TransGen ctx.diagram.Joins id id := by
  rw [clean_ofPure_iff_eq_nil reportsOnly_circularDependency rfl (by decide), circularDependency,
    List.map_eq_nil_iff, Diagram.circuits_eq_nil_iff]

/-- Eleven of the checks tell whether a run passes. -/
theorem forall_checks_clean_iff : (∀ check ∈ checks, check.Clean ctx) ↔
    (ofPure portUniqueness).Clean ctx ∧ (ofPure endpointExistence).Clean ctx ∧
    (ofPure roleMatching).Clean ctx ∧ (ofPure busTypeMatching).Clean ctx ∧
    (ofPure multipleMasters).Clean ctx ∧ Check.Clean dataWidthMatching ctx ∧
    Check.Clean idWidthCompatibility ctx ∧ Check.Clean addressOverlap ctx ∧
    (ofPure circularDependency).Clean ctx ∧ (ofPure requiredLabel).Clean ctx ∧
    Check.Clean dataWidths ctx := by
  simp only [checks_eq, List.forall_mem_cons, List.not_mem_nil, false_imp_iff, implies_true,
    and_true,
    clean_of_reportsOnly reportsOnly_unconnectedInterfaces (by decide),
    clean_of_reportsOnly reportsOnly_addrWidthConsistency (by decide),
    clean_of_reportsOnly reportsOnly_clockCompatibility (by decide),
    clean_of_reportsOnly reportsOnly_addressAlignment (by decide),
    clean_of_reportsOnly reportsOnly_reservedAddress (by decide),
    clean_of_reportsOnly reportsOnly_isolatedComponent (by decide),
    clean_of_reportsOnly reportsOnly_interconnectFanout (by decide),
    clean_of_reportsOnly reportsOnly_clockDomainCrossing (by decide),
    clean_of_reportsOnly reportsOnly_longPaths (by decide),
    clean_of_reportsOnly reportsOnly_uniqueLabels (by decide),
    clean_of_reportsOnly reportsOnly_interfaceNaming (by decide), true_and]

theorem forall_mem_wired_iff {p : Interface → Interface → Prop} :
    (∀ wire ∈ ctx.wired, p wire.2.1 wire.2.2) ↔ ∀ e ∈ ctx.diagram.edges, ∀ source target,
      ctx.resolver.resolveEdge e = (some source, some target) → p source target := by
  simp only [Prod.forall, mem_wired_iff, and_imp]
  exact ⟨fun h e he source target => h e source target he,
    fun h e source target he => h e he source target⟩

/-- A run passes exactly if its design is sound. -/
theorem run_passed_iff (h : Analysis.run timestamp ctx = .ok run) :
    run.result.passed = true ↔ ctx.Sound := by
  obtain ⟨_, hdata⟩ : ∃ vs, dataWidthMatching ctx = .ok vs := exists_eq_ok_of_run h (i := 6) rfl
  obtain ⟨_, hid⟩ : ∃ vs, idWidthCompatibility ctx = .ok vs := exists_eq_ok_of_run h (i := 7) rfl
  obtain ⟨_, haddress⟩ : ∃ vs, addressOverlap ctx = .ok vs := exists_eq_ok_of_run h (i := 10) rfl
  obtain ⟨_, hwidth⟩ : ∃ vs, dataWidths ctx = .ok vs := exists_eq_ok_of_run h (i := 19) rfl
  have hwires := clean_wired_iff hdata hid
  rw [forall_mem_wired_iff] at hwires
  rw [passed_iff h, forall_checks_clean_iff, Context.sound_iff, ← hwires,
    ← clean_endpointExistence_iff, ← clean_portUniqueness_iff, ← clean_multipleMasters_iff,
    ← clean_addressOverlap_iff haddress, ← clean_circularDependency_iff, ← clean_requiredLabel_iff,
    ← clean_dataWidths_iff hwidth]
  constructor
  · rintro ⟨hports, hends, hroles, hbuses, hdrivers, hdata, hid, hmap, hloops, hlabels, hwidths⟩
    exact ⟨hends, hports, ⟨hroles, hbuses, hdata, hid⟩, hdrivers, hmap, hloops, hlabels, hwidths⟩
  · rintro ⟨hends, hports, ⟨hroles, hbuses, hdata, hid⟩, hdrivers, hmap, hloops, hlabels, hwidths⟩
    exact ⟨hports, hends, hroles, hbuses, hdrivers, hdata, hid, hmap, hloops, hlabels, hwidths⟩

/-- A processor and a memory, and a connection from the processor to some component. -/
def processorAndMemory (target : String) : Context where
  design :=
    { diagram :=
        { nodes :=
            [⟨"cpu", "CPU", none, none, none, none, none, none,
               [⟨"m", "m_axi", some "AXI4", .master, some (.number 64), none, none, none, none,
                 false, []⟩]⟩,
             ⟨"mem", "Memory", none, none, none, some "0x100000", some "4KB", none,
               [⟨"s", "s_axi", some "axi", .slave, some (.number 64), none, none, none, none,
                 false, []⟩]⟩]
          edges := [⟨"e", "cpu", target, some "m", none, none⟩] }
      library := [] }
  options := ⟨false⟩
  settings := Settings.default
  arbiter := none

/-- Wired to the memory the processor passes, wired to a missing component it does not. -/
theorem sound_processorAndMemory :
    (processorAndMemory "mem").Sound ∧ ¬ (processorAndMemory "dsp").Sound := by
  have hpass : (Analysis.run "" (processorAndMemory "mem")).map (·.result.passed) = .ok true := by
    decide +kernel
  have hfail : (Analysis.run "" (processorAndMemory "dsp")).map (·.result.passed) = .ok false := by
    decide +kernel
  obtain ⟨run, h, hp⟩ := Outcome.map_eq_ok_iff.mp hpass
  obtain ⟨run', h', hp'⟩ := Outcome.map_eq_ok_iff.mp hfail
  refine ⟨(run_passed_iff h).mp hp, fun hs => ?_⟩
  rw [(run_passed_iff h').mpr hs] at hp'
  cases hp'

end Analysis

end DesignRules
