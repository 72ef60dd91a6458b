import DesignRules.Proofs.Checks.Renaming

/-! # Analysing a renamed diagram

A run does not go by what the identifiers of the nodes are. Other identifiers, different ones
for different nodes, lead to the same report with these identifiers in it.
-/

namespace DesignRules

namespace Analysis

open Check Checks Outcome

variable {ctx : Context} {r : String → String} {timestamp : String} {run run' : Run}

/-! ## Names for all identifiers -/

theorem renames_checks (hr : Function.Injective r) (h : ctx.IgnoresIds) :
    ∀ check ∈ checks, check.Renames r ctx := by
  simp only [checks_eq, List.forall_mem_cons, List.not_mem_nil, false_imp_iff, implies_true,
    and_true]
  exact ⟨renames_portUniqueness hr, renames_endpointExistence hr,
    renames_of_isWirewise hr isWirewise_roleMatching,
    renames_of_isWirewise hr isWirewise_busTypeMatching, renames_multipleMasters hr h,
    renames_unconnectedInterfaces hr, renames_of_isWirewise hr isWirewise_dataWidthMatching,
    renames_of_isWirewise hr isWirewise_idWidthCompatibility,
    renames_of_isWirewise hr isWirewise_addrWidthConsistency,
    renames_of_isWirewise hr isWirewise_clockCompatibility, renames_addressOverlap,
    renames_addressAlignment, renames_reservedAddress, renames_circularDependency hr,
    renames_isolatedComponent hr, renames_interconnectFanout hr,
    renames_of_isWirewise hr isWirewise_clockDomainCrossing, renames_longPaths hr,
    renames_requiredLabel, renames_dataWidths hr, renames_uniqueLabels,
    renames_interfaceNaming hr⟩

theorem violations_renamed (hr : Function.Injective r) (h : ctx.IgnoresIds) :
    (violations (ctx.renamed r)).map (List.map Violation.outline) =
      (violations ctx).map (List.map fun v => v.outline.renamed r) :=
  map_violations_congr rfl (fun _ _ => List.map_append) rfl (fun _ _ => List.map_append)
    (renames_checks hr h)

theorem outlines_renamed (hr : Function.Injective r) (h : ctx.IgnoresIds)
    (hrun : Analysis.run timestamp ctx = .ok run)
    (hrun' : Analysis.run timestamp (ctx.renamed r) = .ok run') :
    run'.result.violations.map Violation.outline =
      run.result.violations.map fun v => v.outline.renamed r := by
  have hviolations := violations_renamed hr h
  rw [map_unnumbered_run hrun, map_unnumbered_run hrun'] at hviolations
  have houtlines := Except.ok.inj hviolations
  rwa [List.map_map, List.map_map] at houtlines

/-! ## Names for the identifiers in use -/

/-- Only identifiers of the diagram are reported: to exchange another one for a fresh one leaves
the diagram, and so the report, as they are. -/
theorem mem_names_of_affects (h : ctx.IgnoresIds) (hrun : Analysis.run timestamp ctx = .ok run)
    {v : Violation} (hv : v ∈ run.result.violations) {name : String} (hname : v.Affects name) :
    name ∈ ctx.diagram.names := by
  by_contra hunused
  obtain ⟨fresh, hfresh⟩ := Infinite.exists_notMem_finset (name :: ctx.diagram.names).toFinset
  rw [List.mem_toFinset, List.mem_cons, not_or] at hfresh
  let exchange := Equiv.swap name fresh
  have hsame : ctx.renamed exchange = ctx := by
    refine congrArg ctx.on (Diagram.renamed_eq_self fun id hid => ?_)
    exact Equiv.swap_apply_of_ne_of_ne (fun he => hunused (he ▸ hid)) fun he => hfresh.2 (he ▸ hid)
  have houtline := List.map_inj_left.mp
    (outlines_renamed exchange.injective h hrun (hsame.symm ▸ hrun)) v hv
  obtain ⟨ids, hids, hmem⟩ := hname
  have hcomponents : ids = ids.map exchange := by
    simpa only [Violation.outline, Outline.renamed, hids, Option.map_some, Option.some.injEq] using
      congrArg Outline.components houtline
  have hfixed : exchange name = name := by
    rw [← List.map_id ids, List.map_map] at hcomponents
    exact (List.map_inj_left.mp hcomponents name hmem).symm
  exact hfresh.1 ((Equiv.swap_apply_left name fresh).symm.trans hfixed)

/-- Other identifiers for those in use, different ones for different ones, lead to the same
report with these identifiers for the components, unless arbiters are recognised by theirs: a run
ends exactly if it ended before, the violations are those of before one by one, and the same nodes
have no interfaces. -/
theorem run_renamed (hr : Set.InjOn r {id | id ∈ ctx.diagram.names}) (h : ctx.IgnoresIds)
    (timestamp : String) :
    ((∃ run, Analysis.run timestamp (ctx.renamed r) = .ok run) ↔
      ∃ run, Analysis.run timestamp ctx = .ok run) ∧
    ∀ run run', Analysis.run timestamp ctx = .ok run →
      Analysis.run timestamp (ctx.renamed r) = .ok run' →
      run'.result.violations.map Violation.outline =
        run.result.violations.map (fun v => v.outline.renamed r) ∧
      run'.gaps = run.gaps.map r := by
  -- Elsewhere `r` need not be injective, so a permutation stands in for it.
  obtain ⟨σ, hσ⟩ := Diagram.exists_perm_of_injOn hr
  have hrenamed : ctx.renamed r = ctx.renamed σ :=
    congrArg ctx.on (Diagram.renamed_congr fun id hid => (hσ id hid).symm)
  refine ⟨hrenamed ▸ exists_run_congr (violations_renamed σ.injective h),
    fun run run' hrun hrun' => ⟨?_, ?_⟩⟩
  · rw [outlines_renamed σ.injective h hrun (hrenamed ▸ hrun')]
    refine List.map_congr_left fun v hv => ?_
    have hcomponents : v.affectedComponents.map (List.map σ) =
        v.affectedComponents.map (List.map r) := by
      refine Option.map_congr fun ids hids => List.map_congr_left fun id hid => hσ id ?_
      exact mem_names_of_affects h hrun hv ⟨ids, hids, hid⟩
    exact congrArg (fun components => { v.outline with components := components }) hcomponents
  · obtain ⟨_, -, rfl⟩ := run_eq_ok_iff.mp hrun
    obtain ⟨_, -, rfl⟩ := run_eq_ok_iff.mp hrun'
    change (ctx.renamed r).design.gaps = ctx.design.gaps.map r
    rw [hrenamed, Context.gaps_renamed σ.injective]
    refine List.map_congr_left fun id hid => hσ id ?_
    exact Diagram.mem_names_of_mem_ids (List.mem_of_mem_filter hid)

/-- Two components wired to each other, and one of them to a component that is missing. -/
def handshake : Diagram where
  nodes :=
    [⟨"b", "Bridge", none, none, none, none, none, none, []⟩,
     ⟨"a", "Adapter", none, none, none, none, none, none, []⟩]
  edges :=
    [⟨"e0", "b", "a", none, none, none⟩, ⟨"e1", "a", "b", none, none, none⟩,
     ⟨"e2", "b", "ghost", none, none, none⟩]

/-- Other identifiers for the three in use, two of which stood for another component. -/
def shifted (id : String) : String := if id = "b" then "a" else if id = "a" then "z" else "b"

/-- The circuit starts at the same component, whatever the identifiers are. -/
theorem run_handshake_shifted :
    Set.InjOn shifted {id | id ∈ (Context.usual.on handshake).diagram.names} ∧
      (Context.usual.on handshake).IgnoresIds ∧
      ∃ run run', Analysis.run "" (Context.usual.on handshake) = .ok run ∧
        Analysis.run "" ((Context.usual.on handshake).renamed shifted) = .ok run' ∧
        run.result.violations.map (fun v => (v.ruleId, v.affectedComponents)) =
          [("DRC-CONN-003", none), ("DRC-TOPO-001", some ["b", "a"])] ∧
        run'.result.violations.map (fun v => (v.ruleId, v.affectedComponents)) =
          [("DRC-CONN-003", none), ("DRC-TOPO-001", some ["a", "z"])] ∧
        run.gaps = ["b", "a"] ∧ run'.gaps = ["a", "z"] := by
  have hinj : Set.InjOn shifted {id | id ∈ (Context.usual.on handshake).diagram.names} := by
    have hnames : ∀ a ∈ handshake.names, ∀ b ∈ handshake.names, shifted a = shifted b → a = b := by
      decide
    exact fun a ha b hb => hnames a ha b hb
  have hignores : (Context.usual.on handshake).IgnoresIds := fun _ hp => nomatch hp
  have hfound : (Analysis.run "" (Context.usual.on handshake)).map (fun run =>
      (run.result.violations.map fun v => (v.ruleId, v.affectedComponents), run.gaps)) =
        .ok ([("DRC-CONN-003", none), ("DRC-TOPO-001", some ["b", "a"])], ["b", "a"]) := by
    decide +kernel
  obtain ⟨run, hrun, hfound⟩ := map_eq_ok_iff.mp hfound
  obtain ⟨hcodes, hmissing⟩ := Prod.mk.inj hfound
  obtain ⟨hends, hreport⟩ := run_renamed hinj hignores ""
  obtain ⟨run', hrun'⟩ := hends.mpr ⟨run, hrun⟩
  obtain ⟨houtlines, hgaps⟩ := hreport run run' hrun hrun'
  refine ⟨hinj, hignores, run, run', hrun, hrun', hcodes, ?_, hmissing, ?_⟩
  · have hcodes' := congrArg (List.map fun o : Outline => (o.ruleId, o.components)) houtlines
    have hsplit : (run.result.violations.map fun v => v.outline.renamed shifted).map
        (fun o : Outline => (o.ruleId, o.components)) =
          (run.result.violations.map fun v => (v.ruleId, v.affectedComponents)).map fun code =>
            (code.1, code.2.map (List.map shifted)) := by
      rw [List.map_map, List.map_map]
      rfl
    rw [hsplit, hcodes, List.map_map] at hcodes'
    exact hcodes'
  · rw [hgaps, hmissing]
    rfl

end Analysis

end DesignRules
