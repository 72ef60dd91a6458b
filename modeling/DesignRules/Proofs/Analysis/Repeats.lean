import DesignRules.Proofs.Analysis.Completion
import DesignRules.Proofs.Checks.LoosePorts
import DesignRules.Proofs.Checks.Resemblance
import DesignRules.Proofs.Graph.Repeats

/-! # Analysing a diagram with repeated identifiers

The later entries of an identifier do not matter to the checks of connections and of the graph.
Three checks walk the list of entries and report on a component once for each of its entries.
-/

namespace DesignRules

open Check Checks Outcome

namespace Context

/-- The same analysis without the entries that repeat an identifier. -/
def unrepeated (ctx : Context) : Context := ctx.on ctx.diagram.unrepeated

/-- Nothing is reported at an entry by the checks that walk the list of entries. -/
@[mk_iff]
structure Settled (ctx : Context) (n : Node) : Prop where
  connected : ctx.diagram.isConnected n.id
  uncrowded : isCrowded ctx n = false
  wired : ∀ i ∈ ctx.interfaces n.id, i.direction = .master ∨ i.direction = .slave →
    (i.optional → ctx.options.checkOptionalPorts) → (n.id, i.id) ∈ connectedPorts ctx

instance (ctx : Context) (n : Node) : Decidable (ctx.Settled n) :=
  decidable_of_iff _ (settled_iff ctx n).symm

variable {ctx : Context}

theorem resembles_unrepeated (ctx : Context) : ctx.Resembles ctx.unrepeated where
  options := rfl
  settings := rfl
  arbiter := rfl
  patterns := rfl
  edges := rfl
  ids := ctx.diagram.ids_unrepeated.symm
  agreeAt := fun id => ctx.agreeAt_on (ctx.diagram.node?_unrepeated id).symm

end Context

/-! ## Checks that walk the list of entries -/

namespace Checks

variable {ctx : Context}

theorem map_filter_firstEntries_eq_iff {p : Node → Bool} {report : Node → Violation}
    (l : List Node) : ((firstEntries l).filter p).map report = (l.filter p).map report ↔
      l.Pairwise fun m n => m.id = n.id → p n = false := by
  rw [map_filter_eq_flatMap, map_filter_eq_flatMap, flatMap_firstEntries_eq_iff]
  simp only [ite_eq_right_iff, List.cons_ne_nil, imp_false, Bool.not_eq_true]

theorem label_unrepeated (ctx : Context) : ctx.unrepeated.label = ctx.label :=
  funext fun id => (ctx.resembles_unrepeated.agreeAt id).label.symm

theorem isolatedComponent_unrepeated_sublist (ctx : Context) :
    (isolatedComponent ctx.unrepeated).Sublist (isolatedComponent ctx) := by
  simp only [isolatedComponent, label_unrepeated]
  exact ((firstEntries_sublist ctx.diagram.nodes).filter _).map _

theorem interconnectFanout_unrepeated_sublist (ctx : Context) :
    (interconnectFanout ctx.unrepeated).Sublist (interconnectFanout ctx) := by
  simp only [interconnectFanout, label_unrepeated]
  exact ((firstEntries_sublist ctx.diagram.nodes).filter _).map _

theorem isolatedComponent_unrepeated_iff (ctx : Context) :
    isolatedComponent ctx.unrepeated = isolatedComponent ctx ↔
      ctx.diagram.nodes.Pairwise fun m n => m.id = n.id → ctx.diagram.isConnected n.id := by
  simp only [isolatedComponent, label_unrepeated]
  refine (map_filter_firstEntries_eq_iff ctx.diagram.nodes).trans ?_
  simp only [Bool.not_eq_false']
  rfl

theorem interconnectFanout_unrepeated_iff (ctx : Context) :
    interconnectFanout ctx.unrepeated = interconnectFanout ctx ↔
      ctx.diagram.nodes.Pairwise fun m n => m.id = n.id → isCrowded ctx n = false := by
  simp only [interconnectFanout, label_unrepeated]
  exact map_filter_firstEntries_eq_iff ctx.diagram.nodes

theorem unconnectedAt_eq_nil_iff {n : Node} : unconnectedAt ctx n = [] ↔
    ∀ i ∈ ctx.interfaces n.id, i.direction = .master ∨ i.direction = .slave →
      (i.optional → ctx.options.checkOptionalPorts) → (n.id, i.id) ∈ connectedPorts ctx := by
  have hloose : unconnectedAt ctx n =
      (ctx.interfaces n.id).filterMap fun i => loosePort? ctx (n.id, i) := rfl
  rw [hloose, List.filterMap_eq_nil_iff]
  exact forall₂_congr fun _ _ => loosePort?_eq_none_iff

theorem unconnectedInterfaces_unrepeated_iff (ctx : Context) :
    unconnectedInterfaces ctx.unrepeated = unconnectedInterfaces ctx ↔
      ctx.diagram.nodes.Pairwise fun m n => m.id = n.id → ∀ i ∈ ctx.interfaces n.id,
        i.direction = .master ∨ i.direction = .slave →
          (i.optional → ctx.options.checkOptionalPorts) → (n.id, i.id) ∈ connectedPorts ctx := by
  have hr := ctx.resembles_unrepeated
  have hat : unconnectedAt ctx.unrepeated = unconnectedAt ctx :=
    funext fun n => (unconnectedAt_congr hr.toSameTerms (hr.agreeAround n.id)).symm
  rw [unconnectedInterfaces_eq, unconnectedInterfaces_eq, hat]
  simp only [← unconnectedAt_eq_nil_iff]
  exact flatMap_firstEntries_eq_iff ctx.diagram.nodes

/-- Nothing is found at an entry exactly if none of the three checks finds anything there. -/
theorem pairwise_settled_iff (ctx : Context) :
    (ctx.diagram.nodes.Pairwise fun m n => m.id = n.id → ctx.Settled n) ↔
      isolatedComponent ctx.unrepeated = isolatedComponent ctx ∧
      interconnectFanout ctx.unrepeated = interconnectFanout ctx ∧
      unconnectedInterfaces ctx.unrepeated = unconnectedInterfaces ctx := by
  rw [isolatedComponent_unrepeated_iff, interconnectFanout_unrepeated_iff,
    unconnectedInterfaces_unrepeated_iff, ← List.pairwise_and_iff, ← List.pairwise_and_iff]
  simp only [Context.settled_iff, imp_and]

end Checks

/-! ## All structural checks -/

namespace Analysis

/-- The categories of the checks of connections and of the graph. -/
def structural : List Category := [.connectivity, .axiParameters, .topology, .performance]

/-- The structural checks that walk the list of entries. -/
def entrywise : List Check :=
  [ofPure unconnectedInterfaces, ofPure isolatedComponent, ofPure interconnectFanout]

variable {ctx : Context} {timestamp : String} {run : Run}

theorem check_unrepeated (ctx : Context) : ∀ c ∈ structural, ∀ check ∈ c.checks,
    check ∉ entrywise → check ctx.unrepeated = check ctx := by
  have hr := ctx.resembles_unrepeated
  have hedges : ∀ check : Check, check.IsEdgewise → check ctx.unrepeated = check ctx :=
    fun _ hcheck => (hr.eq_of_isEdgewise hcheck).symm
  have hwires : ∀ check : Check, check.IsWirewise → check ctx.unrepeated = check ctx :=
    fun _ hcheck => hedges _ (isEdgewise_of_isWirewise hcheck)
  simp only [structural, Category.checks, List.forall_mem_cons, List.not_mem_nil, false_imp_iff,
    implies_true, and_true]
  exact ⟨⟨fun _ => congrArg Except.ok hr.portUniqueness_eq.symm,
      fun _ => hedges _ isEdgewise_endpointExistence, fun _ => hwires _ isWirewise_roleMatching,
      fun _ => hwires _ isWirewise_busTypeMatching,
      fun _ => congrArg Except.ok hr.multipleMasters_eq.symm,
      fun h => absurd (by simp [entrywise]) h⟩,
    ⟨fun _ => hwires _ isWirewise_dataWidthMatching,
      fun _ => hwires _ isWirewise_idWidthCompatibility,
      fun _ => hwires _ isWirewise_addrWidthConsistency,
      fun _ => hwires _ isWirewise_clockCompatibility⟩,
    ⟨fun _ => congrArg Except.ok hr.circularDependency_eq.symm,
      fun h => absurd (by simp [entrywise]) h, fun h => absurd (by simp [entrywise]) h⟩,
    fun _ => hwires _ isWirewise_clockDomainCrossing,
    fun _ => congrArg Except.ok hr.longPaths_eq.symm⟩

theorem eq_and_eq_of_append_eq {α : Type} {a a' b b' : List α} (ha : a'.Sublist a)
    (hb : b'.Sublist b) (h : a' ++ b' = a ++ b) : a' = a ∧ b' = b := by
  have hlength := congrArg List.length h
  rw [List.length_append, List.length_append] at hlength
  have hale := ha.length_le
  have hble := hb.length_le
  exact ⟨ha.eq_of_length (by omega), hb.eq_of_length (by omega)⟩

theorem topology_unrepeated (h : gather (fun check : Check => check ctx.unrepeated)
      Category.topology.checks = gather (fun check : Check => check ctx) Category.topology.checks) :
    isolatedComponent ctx.unrepeated = isolatedComponent ctx ∧
      interconnectFanout ctx.unrepeated = interconnectFanout ctx := by
  have hlist : ∀ ctx, gather (fun check : Check => check ctx) Category.topology.checks =
      .ok (circularDependency ctx ++ (isolatedComponent ctx ++ (interconnectFanout ctx ++ []))) :=
    fun _ => rfl
  rw [hlist, hlist, ← ctx.resembles_unrepeated.circularDependency_eq, Except.ok.injEq,
    List.append_cancel_left_eq, List.append_nil, List.append_nil] at h
  exact eq_and_eq_of_append_eq (isolatedComponent_unrepeated_sublist ctx)
    (interconnectFanout_unrepeated_sublist ctx) h

theorem connectivity_unrepeated (h : gather (fun check : Check => check ctx.unrepeated)
      Category.connectivity.checks =
        gather (fun check : Check => check ctx) Category.connectivity.checks) :
    unconnectedInterfaces ctx.unrepeated = unconnectedInterfaces ctx := by
  have hlist : ∀ ctx, gather (fun check : Check => check ctx) Category.connectivity.checks =
      .ok (portUniqueness ctx ++ (endpointExistence ctx ++ (roleMatching ctx ++
        (busTypeMatching ctx ++ (multipleMasters ctx ++ (unconnectedInterfaces ctx ++ [])))))) :=
    fun _ => rfl
  have hr := ctx.resembles_unrepeated
  have hedges : ∀ check : Context → List Violation, (ofPure check).IsEdgewise →
      check ctx.unrepeated = check ctx :=
    fun _ hcheck => (Except.ok.inj (hr.eq_of_isEdgewise hcheck)).symm
  rw [hlist, hlist, ← hr.portUniqueness_eq, ← hr.multipleMasters_eq,
    hedges _ isEdgewise_endpointExistence,
    hedges _ (isEdgewise_of_isWirewise isWirewise_roleMatching),
    hedges _ (isEdgewise_of_isWirewise isWirewise_busTypeMatching)] at h
  simpa only [Except.ok.injEq, List.append_cancel_left_eq, List.append_nil] using h

/-- The structural checks list the same in all categories exactly if those that walk the list of
entries do. -/
theorem gather_unrepeated_iff (ctx : Context) :
    (∀ c ∈ structural, gather (fun check : Check => check ctx.unrepeated) c.checks =
      gather (fun check : Check => check ctx) c.checks) ↔
      ctx.diagram.nodes.Pairwise fun m n => m.id = n.id → ctx.Settled n := by
  rw [pairwise_settled_iff]
  constructor
  · intro h
    obtain ⟨hisolated, hfanout⟩ := topology_unrepeated (h .topology (by decide))
    exact ⟨hisolated, hfanout, connectivity_unrepeated (h .connectivity (by decide))⟩
  · rintro ⟨hisolated, hfanout, hunconnected⟩ c hc
    have hentrywise : ∀ check ∈ entrywise, check ctx.unrepeated = check ctx := by
      simp only [entrywise, List.forall_mem_cons, List.not_mem_nil, false_imp_iff, implies_true,
        and_true]
      exact ⟨congrArg Except.ok hunconnected, congrArg Except.ok hisolated,
        congrArg Except.ok hfanout⟩
    refine gather_congr fun check hcheck => ?_
    by_cases h : check ∈ entrywise
    · exact hentrywise check h
    · exact check_unrepeated ctx c hc check hcheck h

theorem exists_run_unrepeated (h : Analysis.run timestamp ctx = .ok run) :
    ∃ run', Analysis.run timestamp ctx.unrepeated = .ok run' := by
  have hr := ctx.resembles_unrepeated
  have hsub : ctx.unrepeated.diagram.nodes ⊆ ctx.diagram.nodes :=
    (firstEntries_sublist ctx.diagram.nodes).subset
  obtain ⟨hpattern, hsizes, hdata, hid, haddr⟩ := (exists_run_iff ctx timestamp).mp ⟨run, h⟩
  refine (exists_run_iff _ timestamp).mpr ⟨hpattern, fun n hn => hsizes n (hsub hn), ?_,
    hr.wired ▸ hid, hr.wired ▸ haddr⟩
  intro n hn i hi w hw
  rw [← (hr.agreeAt n.id).interfaces] at hi
  exact hdata n (hsub hn) i hi w hw

/-- If a run ends, it ends without the entries that repeat an identifier, and all structural checks
but those that walk the list of entries list the same. The violations of all structural
categories are the same exactly if each entry that repeats an identifier is of a connected
component, is no crowded interconnect and leaves no interface to be connected. -/
theorem run_unrepeated (h : Analysis.run timestamp ctx = .ok run) :
    (∀ c ∈ structural, ∀ check ∈ c.checks, check ∉ entrywise →
      check ctx.unrepeated = check ctx) ∧
    ∃ run', Analysis.run timestamp ctx.unrepeated = .ok run' ∧
      ((∀ c ∈ structural, run'.inCategory c = run.inCategory c) ↔
        ctx.diagram.nodes.Pairwise fun m n => m.id = n.id → ctx.Settled n) := by
  obtain ⟨run', h'⟩ := exists_run_unrepeated h
  refine ⟨check_unrepeated ctx, run', h', ?_⟩
  rw [← gather_unrepeated_iff]
  simp only [gather_checks_eq h, gather_checks_eq h', Except.ok.injEq]

/-- A processor wired to a memory that has two entries. -/
def memoryTwice : Diagram where
  nodes :=
    [⟨"cpu", "CPU", none, none, none, none, none, none,
       [⟨"m", "m_axi", some "axi", .master, some (.number 64), none, none, none, none, false,
         []⟩]⟩,
     ⟨"mem", "Memory", none, none, none, none, none, none,
       [⟨"s", "s_axi", some "axi", .slave, some (.number 32), none, none, none, none, false,
         []⟩]⟩,
     ⟨"mem", "Spare", some "Interconnect", none, none, none, none, none, []⟩]
  edges := [⟨"e0", "cpu", "mem", some "m", some "s", none⟩]

/-- The second entry of the memory is ignored. -/
theorem run_memoryTwice : ∃ run run',
    Analysis.run "" (Context.usual.on memoryTwice) = .ok run ∧
    Analysis.run "" (Context.usual.on memoryTwice).unrepeated = .ok run' ∧
    run.result.violations.map (·.ruleId) = ["DRC-AXI-PARAM-001"] ∧
    ∀ c ∈ structural, run'.inCategory c = run.inCategory c := by
  have hcodes : (Analysis.run "" (Context.usual.on memoryTwice)).map
      (·.result.violations.map (·.ruleId)) = .ok ["DRC-AXI-PARAM-001"] := by
    decide +kernel
  have hsettled : memoryTwice.nodes.Pairwise fun m n =>
      m.id = n.id → (Context.usual.on memoryTwice).Settled n := by
    decide +kernel
  obtain ⟨run, h, hcodes⟩ := map_eq_ok_iff.mp hcodes
  obtain ⟨-, run', h', hiff⟩ := run_unrepeated h
  exact ⟨run, run', h, h', hcodes, hiff.mpr hsettled⟩

/-- A component without a connection that has two entries. -/
def loneTwice : Diagram :=
  ⟨List.replicate 2 ⟨"dsp", "DSP", none, none, none, none, none, none, []⟩, []⟩

/-- The component is reported twice, and once without its second entry. -/
theorem run_loneTwice : ∃ run run',
    Analysis.run "" (Context.usual.on loneTwice) = .ok run ∧
    Analysis.run "" (Context.usual.on loneTwice).unrepeated = .ok run' ∧
    (run.inCategory .topology).map (·.affectedComponents) = [some ["dsp"], some ["dsp"]] ∧
    (run'.inCategory .topology).map (·.affectedComponents) = [some ["dsp"]] := by
  have hfound : ∀ ctx found, (Analysis.run "" ctx).map
      (fun run => (run.inCategory .topology).map (·.affectedComponents)) = .ok found →
        ∃ run, Analysis.run "" ctx = .ok run ∧
          (run.inCategory .topology).map (·.affectedComponents) = found :=
    fun _ _ => map_eq_ok_iff.mp
  obtain ⟨run, h, hrun⟩ := hfound (Context.usual.on loneTwice) [some ["dsp"], some ["dsp"]]
    (by decide +kernel)
  obtain ⟨run', h', hrun'⟩ := hfound (Context.usual.on loneTwice).unrepeated [some ["dsp"]]
    (by decide +kernel)
  exact ⟨run, run', h, h', hrun, hrun'⟩

end Analysis

end DesignRules
