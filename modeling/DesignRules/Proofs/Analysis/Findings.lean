import DesignRules.Proofs.Checks.Reports
import DesignRules.Proofs.Gathering

/-! # What a run finds

A run lists what its checks report, in their order, and numbers it. The violations of one
rule all come from the one check that reports the rule.
-/

namespace DesignRules

/-- The component is one of those that the violation affects. -/
def Violation.Affects (v : Violation) (id : String) : Prop :=
  ∃ ids, v.affectedComponents = some ids ∧ id ∈ ids

/-- The violations of a rule in a run, as its check made them. -/
def Run.findings (run : Run) (rule : Rule) : List Violation :=
  (run.result.violations.map Violation.unnumbered).filter (·.ruleId == rule.code)

/-- The violations of a category in a run, as its checks made them. -/
def Run.inCategory (run : Run) (c : Category) : List Violation :=
  (run.result.violations.map Violation.unnumbered).filter (·.category == c)

namespace Run

variable {run : Run} {rule : Rule} {v : Violation}

theorem mem_findings_iff : v ∈ run.findings rule ↔
    ∃ w ∈ run.result.violations, w.ruleId = rule.code ∧ w.unnumbered = v := by
  rw [findings, List.mem_filter, List.mem_map, beq_iff_eq]
  constructor
  · rintro ⟨⟨w, hw, rfl⟩, hrule⟩
    exact ⟨w, hw, hrule, rfl⟩
  · rintro ⟨w, hw, hrule, rfl⟩
    exact ⟨⟨w, hw, rfl⟩, hrule⟩

theorem findings_eq_nil_iff :
    run.findings rule = [] ↔ ∀ v ∈ run.result.violations, v.ruleId ≠ rule.code := by
  rw [findings, List.filter_eq_nil_iff, List.forall_mem_map]
  simp only [beq_iff_eq]
  rfl

/-- The number of a violation does not matter to what it affects. -/
theorem exists_affects_iff {id : String} :
    (∃ v ∈ run.result.violations, v.ruleId = rule.code ∧ v.Affects id) ↔
      ∃ v ∈ run.findings rule, v.Affects id := by
  constructor
  · rintro ⟨v, hv, hrule, haffects⟩
    exact ⟨v.unnumbered, mem_findings_iff.mpr ⟨v, hv, hrule, rfl⟩, haffects⟩
  · rintro ⟨_, hfinding, haffects⟩
    obtain ⟨v, hv, hrule, rfl⟩ := mem_findings_iff.mp hfinding
    exact ⟨v, hv, hrule, haffects⟩

end Run

namespace Collector

theorem map_unnumbered_extend (c : Collector) (vs : List Violation) :
    (c.extend vs).violations.map Violation.unnumbered =
      c.violations.map Violation.unnumbered ++ vs.map Violation.unnumbered := by
  induction vs generalizing c with
  | nil => simp [extend]
  | cons v vs ih =>
    rw [extend, List.foldl_cons, ← extend, ih, add, List.map_append, List.append_assoc]
    rfl

end Collector

namespace Analysis

open Checks Outcome

/-- The rules of each check, in the order of the checks. -/
def reported : List (List Rule) :=
  [[.portUniqueness], [.endpointExistence], [.roleMatching, .signalDirection], [.busTypeMatching],
   [.multipleMasters], [.unconnectedMaster, .unconnectedSlave],
   [.dataWidthMatching], [.idWidthCompatibility], [.addrWidthConsistency], [.clockCompatibility],
   [.addressOverlap], [.addressAlignment], [.reservedAddress],
   [.circularDependency], [.isolatedComponent], [.interconnectFanout],
   [.clockDomainCrossing], [.longPath],
   [.requiredLabel], [.requiredDataWidth, .dataWidthRange],
   [.uniqueLabels], [.interfaceNaming]]

theorem checks_eq : checks =
    [.ofPure portUniqueness, .ofPure endpointExistence, .ofPure roleMatching,
     .ofPure busTypeMatching, .ofPure multipleMasters, .ofPure unconnectedInterfaces,
     dataWidthMatching, idWidthCompatibility, addrWidthConsistency, .ofPure clockCompatibility,
     addressOverlap, addressAlignment, reservedAddress,
     .ofPure circularDependency, .ofPure isolatedComponent, .ofPure interconnectFanout,
     .ofPure clockDomainCrossing, .ofPure longPaths,
     .ofPure requiredLabel, dataWidths,
     .ofPure uniqueLabels, interfaceNaming] :=
  rfl

theorem reportsOnly_checks : List.Forall₂ Check.ReportsOnly checks reported := by
  simp only [checks_eq, reported, List.forall₂_cons, List.forall₂_nil_left_iff, and_true,
    reportsOnly_portUniqueness, reportsOnly_endpointExistence, reportsOnly_roleMatching,
    reportsOnly_busTypeMatching, reportsOnly_multipleMasters, reportsOnly_unconnectedInterfaces,
    reportsOnly_dataWidthMatching, reportsOnly_idWidthCompatibility,
    reportsOnly_addrWidthConsistency, reportsOnly_clockCompatibility, reportsOnly_addressOverlap,
    reportsOnly_addressAlignment, reportsOnly_reservedAddress, reportsOnly_circularDependency,
    reportsOnly_isolatedComponent, reportsOnly_interconnectFanout,
    reportsOnly_clockDomainCrossing, reportsOnly_longPaths, reportsOnly_requiredLabel,
    reportsOnly_dataWidths, reportsOnly_uniqueLabels, reportsOnly_interfaceNaming]

variable {ctx : Context} {timestamp : String} {run : Run} {vs us : List Violation} {v : Violation}
  {rule : Rule}

theorem violations_eq_ok_iff : violations ctx = .ok vs ↔
    ∃ parts, List.Forall₂ (fun (check : Check) us => check ctx = .ok us) checks parts ∧
      parts.flatten = vs := by
  rw [violations, map_eq_ok_iff]
  simp only [mapM_eq_ok_iff]

/-- If each check lists the same in some respect, so do all checks one after the other. -/
theorem map_violations_congr {α : Type} {k k' : List Violation → List α} {ctx' : Context}
    (hnil : k [] = []) (happend : ∀ us vs, k (us ++ vs) = k us ++ k vs)
    (hnil' : k' [] = []) (happend' : ∀ us vs, k' (us ++ vs) = k' us ++ k' vs)
    (h : ∀ check ∈ checks, (check ctx').map k' = (check ctx).map k) :
    (violations ctx').map k' = (violations ctx).map k := by
  change (gather (fun check => check ctx') checks).map k' =
    (gather (fun check => check ctx) checks).map k
  rw [map_gather hnil happend, map_gather hnil' happend']
  exact gather_congr h

/-- If all checks list the same in some respect, runs end in the same cases. -/
theorem exists_run_congr {α : Type} {k k' : List Violation → α} {ctx' : Context}
    (h : (violations ctx').map k' = (violations ctx).map k) :
    (∃ run, Analysis.run timestamp ctx' = .ok run) ↔ ∃ run, Analysis.run timestamp ctx = .ok run := by
  rw [Analysis.run, Analysis.run, exists_map_eq_ok_iff, exists_map_eq_ok_iff,
    ← exists_map_eq_ok_iff (f := k'), h, exists_map_eq_ok_iff]

theorem run_eq_ok_iff : Analysis.run timestamp ctx = .ok run ↔
    ∃ vs, violations ctx = .ok vs ∧
      ⟨resultOf timestamp (Collector.empty.extend vs), ctx.design.gaps⟩ = run :=
  map_eq_ok_iff

theorem summary_eq (h : Analysis.run timestamp ctx = .ok run) :
    run.result.summary = Summary.of run.result.violations ∧
      run.result.passed = (run.result.summary.critical == 0) := by
  obtain ⟨vs, -, rfl⟩ := run_eq_ok_iff.mp h
  exact ⟨rfl, rfl⟩

/-- The violations of each part belong to the rules of its place in the table. -/
def PartsReport (parts : List (List Violation)) (table : List (List Rule)) : Prop :=
  List.Forall₂ (fun us rules => ∀ v ∈ us, ∃ rule ∈ rules, rule.Reports v) parts table

theorem PartsReport.exists_reports {parts : List (List Violation)} {table : List (List Rule)}
    (h : PartsReport parts table) {v : Violation} (hv : v ∈ parts.flatten) :
    ∃ rule ∈ table.flatten, rule.Reports v := by
  induction h with
  | nil => simp at hv
  | cons hus _ ih =>
    rcases List.mem_append.mp hv with hv | hv
    · obtain ⟨rule, hr, h⟩ := hus v hv
      exact ⟨rule, List.mem_append_left _ hr, h⟩
    · obtain ⟨rule, hr, h⟩ := ih hv
      exact ⟨rule, List.mem_append_right _ hr, h⟩

theorem PartsReport.filter_flatten_eq_nil {parts : List (List Violation)}
    {table : List (List Rule)} (h : PartsReport parts table) (hr : rule ∉ table.flatten) :
    parts.flatten.filter (·.ruleId == rule.code) = [] := by
  refine List.filter_eq_nil_iff.mpr fun v hv => ?_
  obtain ⟨other, hmem, hrep⟩ := h.exists_reports hv
  rw [beq_iff_eq, hrep.ruleId_eq_iff]
  exact fun he => hr (he ▸ hmem)

theorem partsReport_checks {parts : List (List Violation)}
    (h : List.Forall₂ (fun (check : Check) us => check ctx = .ok us) checks parts) :
    PartsReport parts reported :=
  forall₂_of_forall₂ (fun _ us _ hus hrules => hrules ctx us hus) h reportsOnly_checks

theorem map_unnumbered_violations (h : violations ctx = .ok vs) :
    vs.map Violation.unnumbered = vs := by
  obtain ⟨parts, hparts, rfl⟩ := violations_eq_ok_iff.mp h
  refine (List.map_congr_left fun v hv => ?_).trans (List.map_id _)
  obtain ⟨rule, -, hrep⟩ := (partsReport_checks hparts).exists_reports hv
  exact hrep.unnumbered_eq

theorem map_unnumbered_run (h : Analysis.run timestamp ctx = .ok run) :
    violations ctx = .ok (run.result.violations.map Violation.unnumbered) := by
  obtain ⟨vs, hvs, rfl⟩ := run_eq_ok_iff.mp h
  change _ = Except.ok ((Collector.empty.extend vs).violations.map Violation.unnumbered)
  rw [Collector.map_unnumbered_extend, map_unnumbered_violations hvs]
  exact hvs

/-- Every violation of a run is one that a rule gives rise to. -/
theorem exists_reports_of_mem_run (h : Analysis.run timestamp ctx = .ok run)
    (hv : v ∈ run.result.violations) : ∃ rule : Rule, rule.Reports v.unnumbered := by
  obtain ⟨parts, hparts, hvs⟩ := violations_eq_ok_iff.mp (map_unnumbered_run h)
  obtain ⟨rule, -, hrep⟩ := (partsReport_checks hparts).exists_reports
    (hvs ▸ List.mem_map_of_mem hv)
  exact ⟨rule, hrep⟩

/-- Every violation of a run is one that a check lists. -/
theorem exists_check_of_mem_run (h : Analysis.run timestamp ctx = .ok run)
    (hv : v ∈ run.result.violations) :
    ∃ check ∈ checks, ∃ us, check ctx = .ok us ∧ v.unnumbered ∈ us := by
  have hgather : gather (fun check : Check => check ctx) checks =
      .ok (run.result.violations.map Violation.unnumbered) := map_unnumbered_run h
  exact (mem_gather_iff hgather).mp (List.mem_map_of_mem hv)

theorem flatten_eq_append {α : Type} {parts : List (List α)} {i : ℕ} (hi : i < parts.length) :
    parts.flatten = (parts.take i).flatten ++ (parts[i] ++ (parts.drop (i + 1)).flatten) := by
  rw [← List.flatten_cons, ← List.drop_eq_getElem_cons hi, ← List.flatten_append,
    List.take_append_drop]

/-- No other check reports a rule that one check reports. -/
theorem not_mem_reported_elsewhere {i : ℕ} {rules : List Rule} (hrules : reported[i]? = some rules)
    (hr : rule ∈ rules) :
    rule ∉ (reported.take i).flatten ∧ rule ∉ (reported.drop (i + 1)).flatten := by
  obtain ⟨hi, rfl⟩ := List.getElem?_eq_some_iff.mp hrules
  have hn : reported.flatten.Nodup := by decide
  rw [flatten_eq_append hi] at hn
  obtain ⟨_, hn, hbefore⟩ := List.nodup_append.mp hn
  obtain ⟨_, _, hafter⟩ := List.nodup_append.mp hn
  exact ⟨fun h => hbefore rule h rule (List.mem_append_left _ hr) rfl,
    fun h => hafter rule hr rule h rfl⟩

/-- The findings of a rule are those of the one check that reports it. -/
theorem findings_eq (h : Analysis.run timestamp ctx = .ok run) {i : ℕ} {check : Check}
    {rules : List Rule} (hcheck : checks[i]? = some check) (hrules : reported[i]? = some rules)
    (hr : rule ∈ rules) :
    ∃ us, check ctx = .ok us ∧ run.findings rule = us.filter (·.ruleId == rule.code) := by
  obtain ⟨parts, hparts, hvs⟩ := violations_eq_ok_iff.mp (map_unnumbered_run h)
  obtain ⟨hlength, hget⟩ := List.forall₂_iff_get.mp hparts
  obtain ⟨hi, rfl⟩ := List.getElem?_eq_some_iff.mp hcheck
  have hi' : i < parts.length := hlength ▸ hi
  obtain ⟨hbefore, hafter⟩ := not_mem_reported_elsewhere hrules hr
  have hreport := partsReport_checks hparts
  have htake : PartsReport (parts.take i) (reported.take i) := List.forall₂_take i hreport
  have hdrop : PartsReport (parts.drop (i + 1)) (reported.drop (i + 1)) :=
    List.forall₂_drop (i + 1) hreport
  refine ⟨parts[i], hget i hi hi', ?_⟩
  rw [Run.findings, ← hvs, flatten_eq_append hi', List.filter_append, List.filter_append,
    htake.filter_flatten_eq_nil hbefore, hdrop.filter_flatten_eq_nil hafter,
    List.nil_append, List.append_nil]

/-- The check is the one that reports the rule. -/
def IsReporter (check : Check) (rule : Rule) : Prop :=
  ∃ (i : ℕ) (rules : List Rule),
    checks[i]? = some check ∧ reported[i]? = some rules ∧ rule ∈ rules

/-- A violation of a rule was made by the check that reports the rule. -/
theorem IsReporter.exists_mem (h : Analysis.run timestamp ctx = .ok run) {check : Check}
    (hcheck : IsReporter check rule) (hv : v ∈ run.result.violations)
    (hrule : v.ruleId = rule.code) : ∃ us, check ctx = .ok us ∧ v.unnumbered ∈ us := by
  obtain ⟨i, rules, hi, hrules, hr⟩ := hcheck
  obtain ⟨us, hus, hfindings⟩ := findings_eq h hi hrules hr
  have hmem := Run.mem_findings_iff.mpr ⟨v, hv, hrule, rfl⟩
  rw [hfindings] at hmem
  exact ⟨us, hus, List.mem_of_mem_filter hmem⟩

theorem reportsOnly_of_getElem? {i : ℕ} {check : Check} {rules : List Rule}
    (hcheck : checks[i]? = some check) (hrules : reported[i]? = some rules) :
    check.ReportsOnly rules := by
  obtain ⟨hi, rfl⟩ := List.getElem?_eq_some_iff.mp hcheck
  obtain ⟨hi', rfl⟩ := List.getElem?_eq_some_iff.mp hrules
  exact (List.forall₂_iff_get.mp reportsOnly_checks).2 i hi hi'

/-- A check that lists a violation of a rule is one that reports the rule. -/
theorem isReporter_of_mem {check : Check} (hcheck : check ∈ checks) (hvs : check ctx = .ok vs)
    (hv : v ∈ vs) (hrule : v.ruleId = rule.code) : IsReporter check rule := by
  obtain ⟨i, hi, hget⟩ := List.getElem_of_mem hcheck
  have hcheck : checks[i]? = some check := List.getElem?_eq_some_iff.mpr ⟨hi, hget⟩
  have hi' : i < reported.length := reportsOnly_checks.length_eq ▸ hi
  have hrules : reported[i]? = some reported[i] := List.getElem?_eq_getElem hi'
  obtain ⟨other, hother, hrep⟩ := reportsOnly_of_getElem? hcheck hrules ctx vs hvs v hv
  obtain rfl := hrep.ruleId_eq_iff.mp hrule
  exact ⟨i, _, hcheck, hrules, hother⟩

theorem not_lt_of_reported {i j : ℕ} {rules rules' : List Rule}
    (hrules : reported[i]? = some rules) (hrules' : reported[j]? = some rules')
    (hr : rule ∈ rules) (hr' : rule ∈ rules') : ¬ i < j := by
  intro hlt
  have hmem : rules ∈ reported.take j :=
    List.mem_of_getElem? ((List.getElem?_take_of_lt hlt).trans hrules)
  exact (not_mem_reported_elsewhere hrules' hr').1 (List.mem_flatten.mpr ⟨rules, hmem, hr⟩)

/-- One check alone reports a rule. -/
theorem IsReporter.unique {check check' : Check} (h : IsReporter check rule)
    (h' : IsReporter check' rule) : check = check' := by
  obtain ⟨i, rules, hi, hrules, hr⟩ := h
  obtain ⟨j, rules', hj, hrules', hr'⟩ := h'
  have hij := not_lt_of_reported hrules hrules' hr hr'
  have hji := not_lt_of_reported hrules' hrules hr' hr
  obtain rfl : i = j := by omega
  exact Option.some_inj.mp (hi.symm.trans hj)

/-- The findings of a rule that has a check of its own are all that the check lists. -/
theorem findings_eq_of_singleton (h : Analysis.run timestamp ctx = .ok run) {i : ℕ} {check : Check}
    (hcheck : checks[i]? = some check) (hrules : reported[i]? = some [rule]) :
    check ctx = .ok (run.findings rule) := by
  obtain ⟨us, hus, hfindings⟩ := findings_eq h hcheck hrules (List.mem_singleton_self rule)
  rw [hus, hfindings, List.filter_eq_self.mpr]
  intro v hv
  obtain ⟨other, hother, hrep⟩ := reportsOnly_of_getElem? hcheck hrules ctx us hus v hv
  obtain rfl := List.mem_singleton.mp hother
  exact beq_iff_eq.mpr hrep.ruleId_eq

theorem findings_ofPure (h : Analysis.run timestamp ctx = .ok run) {i : ℕ}
    {check : Context → List Violation} (hcheck : checks[i]? = some (.ofPure check))
    (hrules : reported[i]? = some [rule]) : run.findings rule = check ctx :=
  (Check.ofPure_eq_ok_iff.mp (findings_eq_of_singleton h hcheck hrules)).symm

/-! ## Categories -/

theorem exists_reportsOnly_of_mem_checks (c : Category) : ∀ check ∈ c.checks,
    ∃ rules, check.ReportsOnly rules ∧ ∀ rule ∈ rules, rule.category = c := by
  cases c <;> simp only [Category.checks, List.forall_mem_cons, List.not_mem_nil, false_imp_iff,
    implies_true, and_true]
  case connectivity =>
    exact ⟨⟨_, reportsOnly_portUniqueness, by decide⟩,
      ⟨_, reportsOnly_endpointExistence, by decide⟩, ⟨_, reportsOnly_roleMatching, by decide⟩,
      ⟨_, reportsOnly_busTypeMatching, by decide⟩, ⟨_, reportsOnly_multipleMasters, by decide⟩,
      ⟨_, reportsOnly_unconnectedInterfaces, by decide⟩⟩
  case axiParameters =>
    exact ⟨⟨_, reportsOnly_dataWidthMatching, by decide⟩,
      ⟨_, reportsOnly_idWidthCompatibility, by decide⟩,
      ⟨_, reportsOnly_addrWidthConsistency, by decide⟩,
      ⟨_, reportsOnly_clockCompatibility, by decide⟩⟩
  case addressSpace =>
    exact ⟨⟨_, reportsOnly_addressOverlap, by decide⟩,
      ⟨_, reportsOnly_addressAlignment, by decide⟩, ⟨_, reportsOnly_reservedAddress, by decide⟩⟩
  case topology =>
    exact ⟨⟨_, reportsOnly_circularDependency, by decide⟩,
      ⟨_, reportsOnly_isolatedComponent, by decide⟩,
      ⟨_, reportsOnly_interconnectFanout, by decide⟩⟩
  case performance =>
    exact ⟨⟨_, reportsOnly_clockDomainCrossing, by decide⟩, ⟨_, reportsOnly_longPaths, by decide⟩⟩
  case parameterValidity =>
    exact ⟨⟨_, reportsOnly_requiredLabel, by decide⟩, ⟨_, reportsOnly_dataWidths, by decide⟩⟩
  case naming =>
    exact ⟨⟨_, reportsOnly_uniqueLabels, by decide⟩, ⟨_, reportsOnly_interfaceNaming, by decide⟩⟩

/-- The violations of a category are what its checks list. -/
theorem gather_checks_eq (h : Analysis.run timestamp ctx = .ok run) (c : Category) :
    gather (fun check : Check => check ctx) c.checks = .ok (run.inCategory c) := by
  have hall : gather (fun c : Category => gather (fun check : Check => check ctx) c.checks)
      Category.all = .ok (run.result.violations.map Violation.unnumbered) := by
    rw [← gather_flatMap]
    exact map_unnumbered_run h
  refine eq_ok_filter_of_gather Violation.category ?_ (by decide) hall ?_
  · intro c us hus v hv
    obtain ⟨check, hcheck, ws, hws, hv⟩ := (mem_gather_iff hus).mp hv
    obtain ⟨rules, honly, hrules⟩ := exists_reportsOnly_of_mem_checks c check hcheck
    obtain ⟨rule, hrule, hrep⟩ := honly ctx ws hws v hv
    rw [hrep.category_eq, hrules rule hrule]
  · cases c <;> decide

theorem passed_iff_forall_unnumbered (h : Analysis.run timestamp ctx = .ok run) :
    run.result.passed ↔
      ∀ v ∈ run.result.violations.map Violation.unnumbered, v.severity ≠ .critical := by
  obtain ⟨vs, -, rfl⟩ := run_eq_ok_iff.mp h
  rw [List.forall_mem_map]
  simp only [resultOf, Collector.summary, Summary.of, Summary.count, beq_iff_eq,
    Int.natCast_eq_zero, List.length_eq_zero_iff, List.filter_eq_nil_iff]
  rfl

theorem passed_iff (h : Analysis.run timestamp ctx = .ok run) :
    run.result.passed ↔ ∀ check ∈ checks, check.Clean ctx := by
  obtain ⟨parts, hparts, hvs⟩ := violations_eq_ok_iff.mp (map_unnumbered_run h)
  rw [passed_iff_forall_unnumbered h, ← hvs, List.forall_mem_flatten]
  simp only [mem_of_mapM_eq_ok (mapM_eq_ok_iff.mpr hparts), forall_exists_index, and_imp]
  exact ⟨fun H check hc us hus => H us check hc hus, fun H us check hc us' => H check hc us us'⟩

theorem exists_eq_ok_of_run (h : Analysis.run timestamp ctx = .ok run) {i : ℕ} {check : Check}
    (hcheck : checks[i]? = some check) : ∃ vs, check ctx = .ok vs := by
  obtain ⟨parts, hparts, -⟩ := violations_eq_ok_iff.mp (map_unnumbered_run h)
  exact exists_mapM_eq_ok_iff.mp ⟨parts, mapM_eq_ok_iff.mpr hparts⟩ check
    (List.mem_of_getElem? hcheck)

end Analysis

end DesignRules
