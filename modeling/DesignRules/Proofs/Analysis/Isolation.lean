import DesignRules.Proofs.Analysis.Gaps
import DesignRules.Proofs.Checks.Contention
import DesignRules.Proofs.Checks.SharedPorts
import DesignRules.Proofs.Graph.Degrees

/-! # Isolated components

The degrees, the isolated nodes and the successors agree with the edges of a diagram. A check of
connections, of ports, of circuits or of paths speaks of ends of edges only, and therefore never of
an isolated component.
-/

namespace DesignRules

open Diagram

/-- The rules whose violations affect ends of connections only. -/
def edgeRules : List Rule :=
  wireRules ++
    [.endpointExistence, .multipleMasters, .portUniqueness, .circularDependency, .longPath]

/-- All components that the check finds affected are connected. -/
def Check.SparesIsolates (check : Check) : Prop :=
  ∀ ctx vs, check ctx = .ok vs → ∀ v ∈ vs, ∀ id, v.Affects id → ctx.diagram.isConnected id

namespace Check

variable {check : Check}

theorem IsWirewise.sparesIsolates (h : check.IsWirewise) : check.SparesIsolates := by
  rintro ctx vs hvs v hv id ⟨ids, hids, hid⟩
  obtain ⟨⟨e, s, t⟩, hwire, hcomponents, -⟩ := h.exists_wire hvs hv
  have he := (Checks.mem_wired_iff.mp hwire).1
  rw [hcomponents] at hids
  obtain rfl := Option.some_inj.mp hids
  rcases List.mem_pair.mp hid with rfl | rfl
  · exact isConnected_source he
  · exact isConnected_target he

theorem sparesIsolates_ofPure {check : Context → List Violation}
    (h : ∀ ctx, ∀ v ∈ check ctx, ∀ ids, v.affectedComponents = some ids →
      ∀ id ∈ ids, ctx.diagram.isConnected id) : (ofPure check).SparesIsolates := by
  rintro ctx vs hvs v hv id ⟨ids, hids, hid⟩
  obtain rfl := ofPure_eq_ok_iff.mp hvs
  exact h ctx v hv ids hids id hid

end Check

theorem Connection.touches_of_mem_namedPorts {e : Connection} {port : String × String}
    (h : port ∈ e.namedPorts) : touches port.1 e := by
  rw [touches_iff]
  rcases List.mem_append.mp h with h | h
  · obtain ⟨_, -, rfl⟩ := Option.map_eq_some_iff.mp (Option.mem_toList.mp h)
    exact .inl rfl
  · obtain ⟨_, -, rfl⟩ := Option.map_eq_some_iff.mp (Option.mem_toList.mp h)
    exact .inr rfl

namespace Checks

open Check

/-- A missing endpoint is named in the details, and no component is affected. -/
theorem sparesIsolates_endpointExistence : (ofPure endpointExistence).SparesIsolates := by
  apply sparesIsolates_ofPure
  intro ctx v hv ids hids
  obtain ⟨e, -, he⟩ := List.mem_flatMap.mp hv
  rcases List.mem_append.mp he with h | h <;> split at h <;>
    simp only [List.not_mem_nil, List.mem_singleton] at h <;> subst h <;> cases hids

theorem sparesIsolates_portUniqueness : (ofPure portUniqueness).SparesIsolates := by
  apply sparesIsolates_ofPure
  intro ctx v hv ids hids id hid
  rw [portUniqueness_eq] at hv
  obtain ⟨port, hport, rfl⟩ := List.mem_map.mp hv
  obtain rfl := Option.some_inj.mp hids
  obtain rfl := List.mem_singleton.mp hid
  obtain ⟨e, he, hnamed⟩ :=
    List.mem_flatMap.mp (List.mem_eraseDups.mp (List.mem_of_mem_filter hport))
  exact isConnected_iff.mpr ⟨e, he, e.touches_of_mem_namedPorts hnamed⟩

/-- The contended component is the target of the edges that come in at the port, and the masters are
their sources. -/
theorem sparesIsolates_multipleMasters : (ofPure multipleMasters).SparesIsolates := by
  apply sparesIsolates_ofPure
  intro ctx v hv ids hids id hid
  obtain ⟨node, port, edges, hgroup, -, rfl⟩ := mem_multipleMasters_iff.mp hv
  rw [components_contendedPort] at hids
  obtain rfl := Option.some_inj.mp hids
  rcases List.mem_cons.mp hid with rfl | hid
  · obtain ⟨⟨e, he, -, hport⟩, -⟩ := mem_drivenPorts_iff.mp hgroup
    have htarget : e.target = id := congrArg Prod.fst hport
    exact htarget ▸ isConnected_target he
  · obtain ⟨e, he, rfl⟩ := List.mem_map.mp (List.mem_eraseDups.mp hid)
    exact isConnected_source ((mem_iff_of_mem_drivenPorts hgroup).mp he).1

theorem sparesIsolates_circularDependency : (ofPure circularDependency).SparesIsolates := by
  apply sparesIsolates_ofPure
  intro ctx v hv ids hids id hid
  rw [circularDependency_eq] at hv
  obtain ⟨c, hc, rfl⟩ := List.mem_map.mp hv
  obtain rfl := Option.some_inj.mp hids
  have hloop := (mem_circuits_iff.mp hc).toIsLoop
  -- written out to its first node again, a circuit has a step even if it is a loop at one node
  have hlength : 2 ≤ (c ++ c.take 1).length := by
    have := List.length_pos_iff.mpr hloop.ne_nil
    simp only [List.length_append, List.length_take]
    omega
  exact isConnected_of_mem_walk hloop.closed hlength (List.mem_append_left _ hid)

theorem sparesIsolates_longPaths : (ofPure longPaths).SparesIsolates := by
  apply sparesIsolates_ofPure
  intro ctx v hv ids hids id hid
  obtain ⟨start, -, hv⟩ := List.mem_flatMap.mp hv
  obtain ⟨path, hpath, rfl⟩ := List.mem_map.mp hv
  obtain rfl := Option.some_inj.mp hids
  have hterminal := List.mem_of_mem_filter hpath
  exact isConnected_of_mem_walk (isChain_of_mem_terminalPaths hterminal)
    (isTerminalPath_of_mem hterminal).moves hid

end Checks

namespace Analysis

open Check Checks Outcome

variable {ctx : Context} {rule : Rule} {v : Violation} {id : String}

/-- Each of the rules is reported by a check that spares isolated components. -/
theorem exists_reporter_sparesIsolates :
    ∀ rule ∈ edgeRules, ∃ check, IsReporter check rule ∧ check.SparesIsolates := by
  rw [edgeRules, List.forall_mem_append]
  constructor
  · intro rule hrule
    obtain ⟨check, hcheck, hwirewise⟩ := exists_reporter_isWirewise rule hrule
    exact ⟨check, hcheck, hwirewise.sparesIsolates⟩
  · simp only [List.forall_mem_cons, List.not_mem_nil, false_imp_iff, implies_true, and_true]
    exact
      ⟨⟨_, ⟨1, _, rfl, rfl, by decide⟩, sparesIsolates_endpointExistence⟩,
        ⟨_, ⟨4, _, rfl, rfl, by decide⟩, sparesIsolates_multipleMasters⟩,
        ⟨_, ⟨0, _, rfl, rfl, by decide⟩, sparesIsolates_portUniqueness⟩,
        ⟨_, ⟨13, _, rfl, rfl, by decide⟩, sparesIsolates_circularDependency⟩,
        ⟨_, ⟨17, _, rfl, rfl, by decide⟩, sparesIsolates_longPaths⟩⟩

/-- What any check lists about one of the rules affects connected components only. -/
theorem isConnected_of_affects {check : Check} (hcheck : check ∈ checks) {vs : List Violation}
    (hvs : check ctx = .ok vs) (hv : v ∈ vs) (hr : rule ∈ edgeRules) (hrule : v.ruleId = rule.code)
    (hid : v.Affects id) : ctx.diagram.isConnected id := by
  obtain ⟨reporter, hreporter, hspares⟩ := exists_reporter_sparesIsolates rule hr
  obtain rfl := hreporter.unique (isReporter_of_mem hcheck hvs hv hrule)
  exact hspares ctx vs hvs v hv id hid

/-- The out-degrees and the in-degrees over all distinct names each add up to the number of edges.
The isolated nodes are those without a degree, and the successors of a node those to which edges
lead. No violation of the rules about connections, ports, circuits and paths affects an isolated
node, neither in a check by itself nor in a run. -/
theorem graph_agrees_with_edges (d : Diagram) :
    (∑ id ∈ d.names.toFinset, d.outDegree id = d.edges.length ∧
      ∑ id ∈ d.names.toFinset, d.inDegree id = d.edges.length) ∧
    d.ListsIsolates d.isolates ∧
    (∀ a, d.ListsSuccessors a (d.successors a)) ∧
    ∀ ctx : Context, ctx.diagram = d → ∀ id ∈ d.isolates, ∀ rule ∈ edgeRules,
      (∀ check ∈ checks, ∀ vs, check ctx = .ok vs →
        ∀ v ∈ vs, v.ruleId = rule.code → ¬ v.Affects id) ∧
      ∀ timestamp run, Analysis.run timestamp ctx = .ok run →
        ∀ v ∈ run.result.violations, v.ruleId = rule.code → ¬ v.Affects id := by
  refine ⟨⟨d.sum_outDegree, d.sum_inDegree⟩, d.listsIsolates_isolates,
    d.listsSuccessors_successors, ?_⟩
  rintro ctx rfl id hid rule hr
  have hfree : ¬ ctx.diagram.isConnected id := (mem_isolates_iff.mp hid).2
  constructor
  · intro check hcheck vs hvs v hv hrule haffects
    exact hfree (isConnected_of_affects hcheck hvs hv hr hrule haffects)
  · intro timestamp run h v hv hrule haffects
    obtain ⟨check, hcheck, vs, hvs, hmem⟩ := exists_check_of_mem_run h hv
    exact hfree (isConnected_of_affects hcheck hvs hmem hr hrule haffects)

/-- A processor that is wired to a memory, to a missing component, to a ROM and to the memory again.
A sensor stands by itself. -/
def spareSensor : Context := Context.usual.on
  { nodes :=
      [⟨"rom", "ROM", none, none, none, none, none, none, []⟩,
       ⟨"cpu", "CPU", none, none, none, none, none, none, [onlyMaster]⟩,
       ⟨"mem", "Memory", none, none, none, none, none, none, [onlySlave]⟩,
       ⟨"sensor", "Sensor", none, none, none, none, none, none, [onlySlave]⟩]
    edges :=
      [⟨"e0", "cpu", "mem", some "m", none, none⟩, ⟨"e1", "cpu", "dsp", none, none, none⟩,
       ⟨"e2", "cpu", "rom", some "m", none, none⟩, ⟨"e3", "cpu", "mem", none, none, none⟩,
       ⟨"e4", "rom", "cpu", none, none, none⟩] }

/-- All five edges count, and the memory comes once and before the ROM. The violations that affect
the sensor are of other rules. -/
theorem graph_agrees_spareSensor :
    ∑ id ∈ spareSensor.diagram.names.toFinset, spareSensor.diagram.outDegree id = 5 ∧
    spareSensor.diagram.isolates = ["sensor"] ∧
    spareSensor.diagram.ListsSuccessors "cpu" ["mem", "rom"] ∧
    ∃ run, Analysis.run "" spareSensor = .ok run ∧
      run.result.violations.map (fun v => (v.ruleId, v.affectedComponents)) =
        [("DRC-CONN-008", some ["cpu"]), ("DRC-CONN-003", none),
         ("DRC-CONN-006", some ["sensor"]), ("DRC-TOPO-001", some ["rom", "cpu"]),
         ("DRC-TOPO-002", some ["sensor"]), ("DRC-PARAM-VALID-002", some ["cpu"]),
         ("DRC-PARAM-VALID-002", some ["mem"]), ("DRC-PARAM-VALID-002", some ["sensor"])] ∧
      ∀ rule ∈ edgeRules, ∀ v ∈ run.result.violations, v.ruleId = rule.code →
        ¬ v.Affects "sensor" := by
  have hisolates : spareSensor.diagram.isolates = ["sensor"] := by decide
  have hsuccessors : spareSensor.diagram.successors "cpu" = ["mem", "rom"] := by decide
  have hfound : (Analysis.run "" spareSensor).map
      (fun run => run.result.violations.map fun v => (v.ruleId, v.affectedComponents)) =
        .ok [("DRC-CONN-008", some ["cpu"]), ("DRC-CONN-003", none),
         ("DRC-CONN-006", some ["sensor"]), ("DRC-TOPO-001", some ["rom", "cpu"]),
         ("DRC-TOPO-002", some ["sensor"]), ("DRC-PARAM-VALID-002", some ["cpu"]),
         ("DRC-PARAM-VALID-002", some ["mem"]), ("DRC-PARAM-VALID-002", some ["sensor"])] := by
    decide +kernel
  obtain ⟨run, h, hviolations⟩ := map_eq_ok_iff.mp hfound
  obtain ⟨⟨hout, -⟩, -, hlists, hspares⟩ := graph_agrees_with_edges spareSensor.diagram
  have hsensor : "sensor" ∈ spareSensor.diagram.isolates := hisolates ▸ List.mem_singleton_self _
  refine ⟨hout, hisolates, hsuccessors ▸ hlists "cpu", run, h, hviolations, ?_⟩
  intro rule hr v hv hrule
  exact (hspares spareSensor rfl "sensor" hsensor rule hr).2 "" run h v hv hrule

end Analysis

end DesignRules
