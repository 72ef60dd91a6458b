import DesignRules.Proofs.Checks.Reversal

/-! # Analysing a reversed diagram

If all connections name their ports, most rules are broken as often when every connection is
turned round. The other rules tell the source of a connection from its target.
-/

namespace DesignRules

open Check Checks Outcome

/-- The rules that tell the source of a connection from its target. -/
def oriented : List Rule :=
  [.roleMatching, .signalDirection, .multipleMasters, .idWidthCompatibility, .longPath]

/-- A finding of the rule is about the connection. -/
def Run.Flags (run : Run) (rule : Rule) (e : Connection) : Prop :=
  ∃ v ∈ run.findings rule, v.IsAbout e

namespace Analysis

variable {ctx : Context} {timestamp : String} {run run' : Run} {rule : Rule} {e : Connection}

theorem tallies_checks (h : ∀ e ∈ ctx.diagram.edges, e.HasHandles) (hrule : rule ∉ oriented) :
    ∀ check ∈ checks, check.Tallies rule ctx ctx.reversed := by
  have hother : ∀ rules : List Rule, (∀ rule ∈ rules, rule ∈ oriented) → rule ∉ rules :=
    fun _ hrules hmem => hrule (hrules rule hmem)
  simp only [checks_eq, List.forall_mem_cons, List.not_mem_nil, false_imp_iff, implies_true,
    and_true]
  -- The checks of addresses, labels, widths and names do not look at the connections.
  exact ⟨tallies_portUniqueness ctx, tallies_endpointExistence ctx,
    tallies_of_not_mem reportsOnly_roleMatching (hother _ (by decide)),
    tallies_busTypeMatching h,
    tallies_of_not_mem reportsOnly_multipleMasters (hother _ (by decide)),
    tallies_unconnectedInterfaces h, tallies_conflictingWidths h reportsOnly_dataWidthMatching,
    tallies_of_not_mem reportsOnly_idWidthCompatibility (hother _ (by decide)),
    tallies_conflictingWidths h reportsOnly_addrWidthConsistency, tallies_clockCompatibility h,
    tallies_of_eq rfl, tallies_of_eq rfl, tallies_of_eq rfl,
    tallies_circularDependency ctx, tallies_isolatedComponent ctx, tallies_interconnectFanout ctx,
    tallies_clockDomainCrossing h,
    tallies_of_not_mem reportsOnly_longPaths (hother _ (by decide)),
    tallies_of_eq rfl, tallies_of_eq rfl, tallies_of_eq rfl, tallies_of_eq rfl⟩

theorem countP_ruleId_reversed (h : ∀ e ∈ ctx.diagram.edges, e.HasHandles)
    (hrun : Analysis.run timestamp ctx = .ok run)
    (hrun' : Analysis.run timestamp ctx.reversed = .ok run') (hrule : rule ∉ oriented) :
    run'.result.violations.countP (·.ruleId == rule.code) =
      run.result.violations.countP (·.ruleId == rule.code) := by
  have hnumber : ∀ vs : List Violation, (vs.map Violation.unnumbered).countP
      (·.ruleId == rule.code) = vs.countP (·.ruleId == rule.code) := by
    intro vs
    rw [List.countP_map]
    rfl
  have hcount := countP_eq_of_gather (tallies_checks h hrule) (map_unnumbered_run hrun)
    (map_unnumbered_run hrun')
  rw [← hnumber, ← hcount, hnumber]

theorem findings_idWidthCompatibility (hrun : Analysis.run timestamp ctx = .ok run) :
    idWidthCompatibility ctx = .ok (run.findings .idWidthCompatibility) :=
  findings_eq_of_singleton (i := 7) hrun rfl rfl

/-- The identifier widths at a connection that is flagged exceed each other. -/
theorem exceeds_of_flags (h : ∀ e ∈ ctx.diagram.edges, e.HasHandles)
    (hrun : Analysis.run timestamp ctx = .ok run) (he : e.HasHandles)
    (hflags : run.Flags .idWidthCompatibility e) :
    ∃ s t, ctx.resolver.resolveEdge e = (some s, some t) ∧
      ∃ widths, exceedingWidths? s.idWidth t.idWidth = some widths := by
  obtain ⟨v, hv, habout⟩ := hflags
  obtain ⟨f, s, t, hwire, hf, hwidths⟩ :=
    exists_isAbout_of_mem_idWidthCompatibility h (findings_idWidthCompatibility hrun) hv
  obtain ⟨hmem, hends⟩ := mem_wired_iff.mp hwire
  exact ⟨s, t, resolveEdge_eq_of_isAbout he (h f hmem) habout hf _ ▸ hends, hwidths⟩

/-- If every connection names both its ports, turning all of them round leaves the number of
violations of each rule as it is, but for the rules that tell source from target. The findings
about identifier widths are each about a connection, and no connection is flagged both ways
round unless one of its widths is a NaN. -/
theorem run_reversed (h : ∀ e ∈ ctx.diagram.edges, e.HasHandles)
    (hrun : Analysis.run timestamp ctx = .ok run)
    (hrun' : Analysis.run timestamp ctx.reversed = .ok run') :
    (∀ rule, rule ∉ oriented → run'.result.violations.countP (·.ruleId == rule.code) =
      run.result.violations.countP (·.ruleId == rule.code)) ∧
    (∀ v ∈ run.findings .idWidthCompatibility, ∃ e ∈ ctx.diagram.edges, v.IsAbout e) ∧
    (∀ v ∈ run'.findings .idWidthCompatibility, ∃ e ∈ ctx.diagram.edges, v.IsAbout e.reversed) ∧
    ∀ e ∈ ctx.diagram.edges, run.Flags .idWidthCompatibility e →
      run'.Flags .idWidthCompatibility e.reversed →
        ∃ s t, ctx.resolver.resolveEdge e = (some s, some t) ∧
          (s.idWidth = some (.fraction .nan) ∨ t.idWidth = some (.fraction .nan)) := by
  have hreversed : ∀ e ∈ ctx.reversed.diagram.edges, e.HasHandles := by
    intro f hf
    obtain ⟨e, he, rfl⟩ := List.mem_map.mp hf
    exact (h e he).reversed
  refine ⟨fun rule hrule => countP_ruleId_reversed h hrun hrun' hrule, fun v hv => ?_,
    fun v hv => ?_, fun e he hflags hflags' => ?_⟩
  · obtain ⟨e, s, t, hwire, habout, -⟩ :=
      exists_isAbout_of_mem_idWidthCompatibility h (findings_idWidthCompatibility hrun) hv
    exact ⟨e, (mem_wired_iff.mp hwire).1, habout⟩
  · obtain ⟨f, s, t, hwire, habout, -⟩ := exists_isAbout_of_mem_idWidthCompatibility hreversed
      (findings_idWidthCompatibility hrun') hv
    obtain ⟨e, he, rfl⟩ := List.mem_map.mp (mem_wired_iff.mp hwire).1
    exact ⟨e, he, habout⟩
  · obtain ⟨s, t, hends, widths, hwidths⟩ := exceeds_of_flags h hrun (h e he) hflags
    obtain ⟨t', s', hends', widths', hwidths'⟩ :=
      exceeds_of_flags hreversed hrun' (h e he).reversed hflags'
    rw [Context.resolveEdge_reversed (h e he), hends] at hends'
    obtain ⟨rfl, rfl⟩ : t = t' ∧ s = s' := by simpa using hends'
    exact ⟨s, t, hends, eq_nan_of_exceedingWidths? hwidths hwidths'⟩

/-- A processor wired to a memory with narrower data and fewer identifiers. -/
def narrowMemory : Diagram where
  nodes :=
    [⟨"cpu", "CPU", none, none, none, none, none, none,
       [⟨"m", "m_axi", some "axi", .master, some (.number 64), none, some (.number 4), none, none,
         false, []⟩]⟩,
     ⟨"mem", "Memory", none, none, none, none, none, none,
       [⟨"s", "s_axi", some "axi", .slave, some (.number 32), none, some (.number 2), none, none,
         false, []⟩]⟩]
  edges := [⟨"e0", "cpu", "mem", some "m", some "s", none⟩]

/-- The data widths differ either way round, and the identifiers are too many only one way. -/
theorem run_narrowMemory_reversed : (∀ e ∈ narrowMemory.edges, e.HasHandles) ∧
    ∃ run run', Analysis.run "" (Context.usual.on narrowMemory) = .ok run ∧
      Analysis.run "" (Context.usual.on narrowMemory).reversed = .ok run' ∧
      run.result.violations.map (·.ruleId) = ["DRC-AXI-PARAM-001", "DRC-AXI-PARAM-002"] ∧
      run'.result.violations.map (·.ruleId) = ["DRC-AXI-PARAM-001"] ∧
      run'.result.violations.countP (·.ruleId == Rule.dataWidthMatching.code) =
        run.result.violations.countP (·.ruleId == Rule.dataWidthMatching.code) ∧
      ∀ v ∈ run.findings .idWidthCompatibility, ∃ e ∈ narrowMemory.edges, v.IsAbout e := by
  have hhandles : ∀ e ∈ (Context.usual.on narrowMemory).diagram.edges, e.HasHandles := by decide
  have hcodes : (Analysis.run "" (Context.usual.on narrowMemory)).map
      (·.result.violations.map (·.ruleId)) =
        .ok ["DRC-AXI-PARAM-001", "DRC-AXI-PARAM-002"] := by
    decide +kernel
  have hcodes' : (Analysis.run "" (Context.usual.on narrowMemory).reversed).map
      (·.result.violations.map (·.ruleId)) = .ok ["DRC-AXI-PARAM-001"] := by
    decide +kernel
  obtain ⟨run, hrun, hcodes⟩ := map_eq_ok_iff.mp hcodes
  obtain ⟨run', hrun', hcodes'⟩ := map_eq_ok_iff.mp hcodes'
  obtain ⟨hcount, habout, -⟩ := run_reversed hhandles hrun hrun'
  exact ⟨hhandles, run, run', hrun, hrun', hcodes, hcodes', hcount _ (by decide), habout⟩

end Analysis

end DesignRules
