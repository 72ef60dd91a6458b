import DesignRules.Proofs.Analysis.Findings
import DesignRules.Proofs.Violation.Collector

/-! # Consistency of results

The parts of a result agree with each other and with the catalogue of rules: the numbers
count the violations, the identifiers number them, their categories are in order, and each
says of its rule what the catalogue says.
-/

namespace DesignRules

/-- The place of a category in the order of the reports. -/
def Category.place (c : Category) : ℕ := all.idxOf c

/-- The violation says of its rule what the catalogue says. Only an input wired to an output may be
judged less severely. -/
def Violation.IsCatalogued (v : Violation) : Prop :=
  ∃ rule, Rule.ofCode? v.ruleId = some rule ∧ v.ruleName = rule.name ∧
    v.category = rule.category ∧
    (v.severity = rule.severity ∨ rule = .signalDirection ∧ v.severity = .warning)

/-- The parts of the result fit together. -/
structure Result.Consistent (r : Result) : Prop where
  total : r.totalChecks = r.violations.length
  sum : r.totalChecks = r.summary.critical + r.summary.warning + r.summary.info
  critical : r.summary.critical = r.violations.countP (·.severity == .critical)
  warning : r.summary.warning = r.violations.countP (·.severity == .warning)
  info : r.summary.info = r.violations.countP (·.severity == .info)
  passed : r.passed ↔ r.summary.critical = 0
  ids : r.violations.map (·.id) =
    (List.range r.violations.length).map fun i => "DRC-VIOLATION-" ++ Numeral.ofNat (i + 1)
  ordered : r.violations.Pairwise fun v w => v.category.place ≤ w.category.place
  catalogued : ∀ v ∈ r.violations, v.IsCatalogued

namespace Rule

theorem Reports.isCatalogued {rule : Rule} {v : Violation} (h : rule.Reports v) :
    v.IsCatalogued :=
  ⟨rule, h.ruleId_eq ▸ ofCode?_code rule, h.ruleName_eq, h.category_eq, h.severity_eq_or⟩

end Rule

namespace Analysis

variable {ctx : Context} {timestamp : String} {run : Run} {vs : List Violation}

/-- What is related for the rules of a table is related for the violations of its parts. -/
theorem PartsReport.pairwise_flatten {parts : List (List Violation)} {table : List (List Rule)}
    {related : Rule → Rule → Prop} (h : PartsReport parts table)
    (hrow : ∀ rules ∈ table, ∀ a ∈ rules, ∀ b ∈ rules, related a b)
    (htable : table.Pairwise fun rules later => ∀ a ∈ rules, ∀ b ∈ later, related a b) :
    parts.flatten.Pairwise fun v w => ∃ a b, Rule.Reports a v ∧ Rule.Reports b w ∧ related a b := by
  induction h with
  | nil => exact .nil
  | @cons us rules parts table hus hrest ih =>
    obtain ⟨hfirst, htable⟩ := List.pairwise_cons.mp htable
    obtain ⟨hrules, hrow⟩ := List.forall_mem_cons.mp hrow
    rw [List.flatten_cons, List.pairwise_append]
    refine ⟨List.pairwise_of_forall_mem_list fun v hv w hw => ?_, ih hrow htable, ?_⟩
    · obtain ⟨a, ha, hav⟩ := hus v hv
      obtain ⟨b, hb, hbw⟩ := hus w hw
      exact ⟨a, b, hav, hbw, hrules a ha b hb⟩
    · intro v hv w hw
      obtain ⟨a, ha, hav⟩ := hus v hv
      obtain ⟨b, hb, hbw⟩ := PartsReport.exists_reports hrest hw
      obtain ⟨later, hlater, hb⟩ := List.mem_flatten.mp hb
      exact ⟨a, b, hav, hbw, hfirst later hlater a ha b hb⟩

/-- The checks report in the order of the categories. -/
theorem pairwise_place_violations (h : violations ctx = .ok vs) :
    vs.Pairwise fun v w => v.category.place ≤ w.category.place := by
  obtain ⟨parts, hparts, rfl⟩ := violations_eq_ok_iff.mp h
  have hrow : ∀ rules ∈ reported, ∀ a ∈ rules, ∀ b ∈ rules,
      a.category.place ≤ b.category.place := by
    decide
  have htable : reported.Pairwise fun rules later =>
      ∀ a ∈ rules, ∀ b ∈ later, a.category.place ≤ b.category.place := by
    decide
  refine ((partsReport_checks hparts).pairwise_flatten hrow htable).imp ?_
  rintro v w ⟨a, b, hav, hbw, hplace⟩
  rwa [hav.category_eq, hbw.category_eq]

theorem consistent_of_run (h : Analysis.run timestamp ctx = .ok run) : run.result.Consistent := by
  have hplaces := List.pairwise_map.mp (pairwise_place_violations (map_unnumbered_run h))
  have hreports : ∀ v ∈ run.result.violations, ∃ rule : Rule, rule.Reports v.unnumbered :=
    fun v hv => exists_reports_of_mem_run h hv
  obtain ⟨vs, hvs, rfl⟩ := run_eq_ok_iff.mp h
  have hc : (Collector.empty.extend vs).Holds vs := Collector.holds_empty.extend vs
  exact
    { total := congrArg Nat.cast hc.length_violations.symm
      sum := hc.sum_summary.symm
      critical := congrArg Nat.cast List.countP_eq_length_filter.symm
      warning := congrArg Nat.cast List.countP_eq_length_filter.symm
      info := congrArg Nat.cast List.countP_eq_length_filter.symm
      passed := beq_iff_eq
      ids := by
        have hids := hc.map_id_eq
        rwa [← hc.length_violations] at hids
      ordered := hplaces
      catalogued := by
        intro v hv
        obtain ⟨rule, hrep⟩ := hreports v hv
        exact hrep.isCatalogued }

/-- A collector holds what was put in, numbered from one on without gap or repetition, and counts
it. The result of every run is consistent. -/
theorem results_consistent :
    (∀ history, (Collector.after history).Holds (history.flatMap Collector.Operation.inputs) ∧
      ((Collector.after history).violations.map (·.id)).Nodup ∧
      (Collector.after history).summary.critical + (Collector.after history).summary.warning +
        (Collector.after history).summary.info = (Collector.after history).total) ∧
    ∀ timestamp ctx run, Analysis.run timestamp ctx = .ok run → run.result.Consistent := by
  refine ⟨fun history => ?_, fun timestamp ctx run h => consistent_of_run h⟩
  have h := Collector.holds_after history
  exact ⟨h, h.nodup_ids, h.sum_summary⟩

end Analysis

end DesignRules
