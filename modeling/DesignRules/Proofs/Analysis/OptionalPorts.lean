import DesignRules.Proofs.Analysis.Findings
import DesignRules.Proofs.Gathering

/-! # Optional ports

Whether optional ports are checked matters to one check only. Without them a run finds what
it finds with them, less the unconnected interfaces that are marked as optional, and none of
these is critical.
-/

namespace DesignRules

/-- The same analysis with optional ports checked or not. -/
def Context.checking (ctx : Context) (optionalPorts : Bool) : Context :=
  { ctx with options := ⟨optionalPorts⟩ }

def Datum.isYes : Datum → Bool
  | .bool b => b
  | _ => false

/-- The violation is about an unconnected interface and calls it optional. -/
def Violation.blamesOptional (v : Violation) : Bool :=
  (v.ruleId == Rule.unconnectedMaster.code || v.ruleId == Rule.unconnectedSlave.code) &&
    v.details.any fun given => (given.get? "optional").any Datum.isYes

namespace Rule

variable {rule : Rule} {v : Violation}

theorem Reports.eq_of_blamesOptional (h : rule.Reports v) (hv : v.blamesOptional) :
    rule = .unconnectedMaster ∨ rule = .unconnectedSlave := by
  rw [Violation.blamesOptional, Bool.and_eq_true, Bool.or_eq_true, beq_iff_eq, beq_iff_eq,
    h.ruleId_eq_iff, h.ruleId_eq_iff] at hv
  exact hv.1

theorem Reports.severity_of_blamesOptional (h : rule.Reports v) (hv : v.blamesOptional) :
    v.severity ≠ .critical := by
  rcases h.eq_of_blamesOptional hv with rfl | rfl <;> exact h.severity_ne_critical (by decide)

end Rule

namespace Checks

open Check Outcome

variable {ctx : Context} {id : String} {i : Interface} {v : Violation}

/-- What is said about an unconnected interface calls it optional exactly if it is. -/
theorem blamesOptional_of_unconnected? (h : unconnected? ctx id i = some v) :
    v.blamesOptional = i.optional := by
  unfold unconnected? at h
  split at h <;> cases h <;> rfl

/-- The findings that do not blame an optional interface. -/
def required (vs : List Violation) : List Violation := vs.filter fun v => !v.blamesOptional

theorem unconnectedInterfaces_checking (ctx : Context) :
    unconnectedInterfaces (ctx.checking false) =
      required (unconnectedInterfaces (ctx.checking true)) := by
  unfold unconnectedInterfaces required
  rw [List.filter_flatMap]
  refine List.flatMap_congr fun n _ => ?_
  rw [List.filter_filterMap]
  refine List.filterMap_congr fun i _ => ?_
  change (if (connectedPorts ctx).contains (n.id, i.id) || (i.optional && !false) then none
      else unconnected? ctx n.id i) =
    Option.filter _ (if (connectedPorts ctx).contains (n.id, i.id) || (i.optional && !true) then
      none else unconnected? ctx n.id i)
  generalize (connectedPorts ctx).contains (n.id, i.id) = connected
  cases hi : unconnected? ctx n.id i with
  | none => simp
  | some v =>
    have hv := blamesOptional_of_unconnected? hi
    cases connected <;> cases ho : i.optional <;> simp [Option.filter_some, hv, ho]

end Checks

namespace Analysis

open Check Checks Outcome

variable {ctx : Context} {check : Check} {vs : List Violation} {v : Violation} {timestamp : String}
  {run run' : Run}

/-- Only the check for unconnected interfaces asks whether optional ports are checked. -/
theorem eq_checking (ctx : Context) : ∀ check ∈ checks, check ≠ ofPure unconnectedInterfaces →
    check (ctx.checking false) = check (ctx.checking true) := by
  simp only [checks_eq, List.forall_mem_cons, List.not_mem_nil, false_imp_iff, implies_true,
    and_true]
  exact ⟨fun _ => rfl, fun _ => rfl, fun _ => rfl, fun _ => rfl, fun _ => rfl,
    fun h => absurd rfl h, fun _ => rfl, fun _ => rfl, fun _ => rfl, fun _ => rfl, fun _ => rfl,
    fun _ => rfl, fun _ => rfl, fun _ => rfl, fun _ => rfl, fun _ => rfl, fun _ => rfl,
    fun _ => rfl, fun _ => rfl, fun _ => rfl, fun _ => rfl, fun _ => rfl⟩

theorem required_eq_self (hcheck : check ∈ checks) (hne : check ≠ ofPure unconnectedInterfaces)
    (hvs : check ctx = .ok vs) : required vs = vs := by
  obtain ⟨i, hi, rfl⟩ := List.getElem_of_mem hcheck
  have hplace : i ≠ 5 := by
    rintro rfl
    exact hne rfl
  have hrules : ∀ i (h : i < reported.length), i ≠ 5 →
      .unconnectedMaster ∉ reported[i] ∧ .unconnectedSlave ∉ reported[i] := by
    decide
  obtain ⟨hmaster, hslave⟩ := hrules i hi hplace
  refine List.filter_eq_self.mpr fun v hv => ?_
  obtain ⟨rule, hrule, hrep⟩ :=
    (List.forall₂_iff_get.mp reportsOnly_checks).2 i hi hi ctx vs hvs v hv
  cases hblames : v.blamesOptional with
  | false => rfl
  | true =>
    rcases hrep.eq_of_blamesOptional hblames with rfl | rfl
    · exact absurd hrule hmaster
    · exact absurd hrule hslave

theorem check_checking (ctx : Context) (hcheck : check ∈ checks) :
    check (ctx.checking false) = (check (ctx.checking true)).map required := by
  by_cases h : check = ofPure unconnectedInterfaces
  · subst h
    exact congrArg Except.ok (unconnectedInterfaces_checking ctx)
  · rw [eq_checking ctx check hcheck h]
    cases hvs : check (ctx.checking true) with
    | error failure => rfl
    | ok vs => exact congrArg Except.ok (required_eq_self hcheck h hvs).symm

theorem violations_checking (ctx : Context) :
    violations (ctx.checking false) = (violations (ctx.checking true)).map required := by
  refine (gather_congr fun check hcheck => check_checking ctx hcheck).trans ?_
  exact (map_gather rfl (fun us vs => List.filter_append us vs) _ _).symm

/-! ## What is left out -/

/-- The violations that call an interface optional are those of the optional interfaces. -/
theorem blamesOptional_iff (h : Analysis.run timestamp (ctx.checking true) = .ok run)
    (hv : v ∈ run.result.violations) : v.blamesOptional ↔
      ∃ n ∈ ctx.diagram.nodes, ∃ i ∈ ctx.interfaces n.id, i.optional ∧
        unconnected? ctx n.id i = some v.unnumbered := by
  constructor
  · intro hblames
    obtain ⟨rule, hrep⟩ := exists_reports_of_mem_run h hv
    have hrule : rule ∈ [Rule.unconnectedMaster, .unconnectedSlave] := by
      simpa using hrep.eq_of_blamesOptional hblames
    have hreporter : IsReporter (ofPure unconnectedInterfaces) rule := ⟨5, _, rfl, rfl, hrule⟩
    obtain ⟨us, hus, hmem⟩ := hreporter.exists_mem h hv hrep.ruleId_eq
    rw [← ofPure_eq_ok_iff.mp hus] at hmem
    obtain ⟨n, hn, hmem⟩ := List.mem_flatMap.mp hmem
    obtain ⟨i, hi, hfound⟩ := List.mem_filterMap.mp hmem
    split at hfound
    · cases hfound
    · exact ⟨n, hn, i, hi, (blamesOptional_of_unconnected? hfound).symm.trans hblames, hfound⟩
  · rintro ⟨n, -, i, -, hoptional, hfound⟩
    exact (blamesOptional_of_unconnected? hfound).trans hoptional

theorem count_critical_unnumbered (vs : List Violation) :
    Summary.count .critical (vs.map Violation.unnumbered) = Summary.count .critical vs := by
  rw [Summary.count, List.filter_map, List.length_map]
  rfl

theorem count_critical_required {us : List Violation}
    (h : ∀ v ∈ us, ∃ rule : Rule, rule.Reports v) :
    Summary.count .critical (required us) = Summary.count .critical us := by
  rw [Summary.count, Summary.count, required, List.filter_filter]
  refine congrArg (fun vs : List Violation => (vs.length : Int)) (List.filter_congr fun v hv => ?_)
  obtain ⟨rule, hrep⟩ := h v hv
  cases hblames : v.blamesOptional with
  | false => simp
  | true => simpa using hrep.severity_of_blamesOptional hblames

/-- With optional ports a run ends exactly if it ends without them. Without them it finds, in the
same order and words, what it finds with them less the violations of optional interfaces,
misses the interfaces of the same nodes and judges the same. -/
theorem run_checking (ctx : Context) (timestamp : String) :
    ((∃ run, Analysis.run timestamp (ctx.checking false) = .ok run) ↔
      ∃ run, Analysis.run timestamp (ctx.checking true) = .ok run) ∧
    ∀ run run', Analysis.run timestamp (ctx.checking false) = .ok run →
      Analysis.run timestamp (ctx.checking true) = .ok run' →
      run.result.violations.map Violation.unnumbered =
        (run'.result.violations.filter fun v => !v.blamesOptional).map Violation.unnumbered ∧
      (∀ v ∈ run'.result.violations, v.blamesOptional ↔
        ∃ n ∈ ctx.diagram.nodes, ∃ i ∈ ctx.interfaces n.id, i.optional ∧
          unconnected? ctx n.id i = some v.unnumbered) ∧
      run.gaps = run'.gaps ∧
      run.result.summary.critical = run'.result.summary.critical ∧
      run.result.passed = run'.result.passed := by
  constructor
  · rw [Analysis.run, Analysis.run, exists_map_eq_ok_iff, exists_map_eq_ok_iff,
      violations_checking, exists_map_eq_ok_iff]
  intro run run' hrun hrun'
  have hviolations : run.result.violations.map Violation.unnumbered =
      required (run'.result.violations.map Violation.unnumbered) := by
    have h := map_unnumbered_run hrun
    rw [violations_checking, map_unnumbered_run hrun'] at h
    exact (Except.ok.inj h).symm
  have hreports : ∀ v ∈ run'.result.violations.map Violation.unnumbered,
      ∃ rule : Rule, rule.Reports v := by
    simp only [List.forall_mem_map]
    exact fun v hv => exists_reports_of_mem_run hrun' hv
  obtain ⟨hsummary, hpassed⟩ := summary_eq hrun
  obtain ⟨hsummary', hpassed'⟩ := summary_eq hrun'
  have hcritical : run.result.summary.critical = run'.result.summary.critical := by
    have hcount := congrArg (Summary.count .critical) hviolations
    rw [count_critical_required hreports, count_critical_unnumbered,
      count_critical_unnumbered] at hcount
    rw [hsummary, hsummary']
    exact hcount
  refine ⟨?_, fun v hv => blamesOptional_iff hrun' hv, ?_, hcritical, ?_⟩
  · rw [hviolations, required, List.filter_map]
    rfl
  · obtain ⟨_, -, rfl⟩ := run_eq_ok_iff.mp hrun
    obtain ⟨_, -, rfl⟩ := run_eq_ok_iff.mp hrun'
    rfl
  · rw [hpassed, hpassed', hcritical]

/-- A camera without connections, of whose two interfaces one is optional. -/
def looseCamera : Context where
  design :=
    { diagram :=
        { nodes :=
            [⟨"cam", "Camera", none, none, none, none, none, none,
               [⟨"m", "m_axi", some "axi", .master, some (.number 64), none, none, none, none,
                 true, []⟩,
                ⟨"s", "s_axi", some "axi", .slave, some (.number 64), none, none, none, none,
                 false, []⟩]⟩]
          edges := [] }
      library := [] }
  options := ⟨false⟩
  settings := Settings.default
  arbiter := none

/-- The optional master of the camera is found only when optional ports are checked, its slave
always is. -/
theorem run_checking_looseCamera : ∃ run run',
    Analysis.run "" (looseCamera.checking false) = .ok run ∧
    Analysis.run "" (looseCamera.checking true) = .ok run' ∧
    run'.result.violations.map Violation.blamesOptional = [true, false, false] ∧
    run.result.violations.map Violation.unnumbered =
      (run'.result.violations.filter fun v => !v.blamesOptional).map Violation.unnumbered ∧
    run.result.passed = run'.result.passed := by
  have hwithout : (Analysis.run "" (looseCamera.checking false)).map (fun _ => ()) = .ok () := by
    decide +kernel
  have hwith : (Analysis.run "" (looseCamera.checking true)).map
      (·.result.violations.map Violation.blamesOptional) = .ok [true, false, false] := by
    decide +kernel
  obtain ⟨run, hrun, -⟩ := map_eq_ok_iff.mp hwithout
  obtain ⟨run', hrun', hblames⟩ := map_eq_ok_iff.mp hwith
  obtain ⟨-, hruns⟩ := run_checking looseCamera ""
  obtain ⟨hviolations, -, -, -, hpassed⟩ := hruns run run' hrun hrun'
  exact ⟨run, run', hrun, hrun', hblames, hviolations, hpassed⟩

end Analysis

end DesignRules
