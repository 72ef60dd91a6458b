import DesignRules.Proofs.Checks.Locality
import DesignRules.Proofs.Checks.Topology
import DesignRules.Proofs.Graph.Ranking

/-! # Circular dependencies and reachability

A component is reported to lie on a circuit exactly if it depends on itself over any number of
connections, and nothing is reported exactly if all connections lead upwards in some ranking.
-/

namespace DesignRules.Checks

variable {ctx : Context} {id : String}

theorem exists_affects_circularDependency_iff :
    (∃ v ∈ circularDependency ctx, v.Affects id) ↔ ∃ c ∈ ctx.diagram.circuits, id ∈ c := by
  rw [circularDependency_eq]
  constructor
  · rintro ⟨_, hv, _, hcomponents, hid⟩
    obtain ⟨c, hc, rfl⟩ := List.mem_map.mp hv
    obtain rfl := Option.some_inj.mp hcomponents
    exact ⟨c, hc, hid⟩
  · rintro ⟨c, hc, hid⟩
    exact ⟨circuitReport ctx c, List.mem_map_of_mem hc, c, rfl, hid⟩

theorem circularDependency_eq_nil_iff :
    circularDependency ctx = [] ↔ ∃ rank, ctx.diagram.Ranks rank := by
  rw [circularDependency, List.map_eq_nil_iff, Diagram.circuits_eq_nil_iff,
    Diagram.exists_ranks_iff]

/-- A node is reported to lie on a circuit exactly if a walk, which may repeat nodes and edges,
leads from it back to it. Nothing is reported exactly if the nodes can be ranked so that
every edge between existing nodes leads to a larger rank. -/
theorem circularity_iff_reachable (ctx : Context) :
    ((∀ id, (∃ v ∈ circularDependency ctx, v.Affects id) ↔
        Relation.TransGen ctx.diagram.Joins id id) ∧
      (circularDependency ctx = [] ↔ ∃ rank, ctx.diagram.Ranks rank)) ∧
    ∀ timestamp run, Analysis.run timestamp ctx = .ok run →
      (∀ id, (∃ v ∈ run.result.violations,
          v.ruleId = Rule.circularDependency.code ∧ v.Affects id) ↔
        Relation.TransGen ctx.diagram.Joins id id) ∧
      ((∀ v ∈ run.result.violations, v.ruleId ≠ Rule.circularDependency.code) ↔
        ∃ rank, ctx.diagram.Ranks rank) := by
  have hnodes : ∀ id, (∃ v ∈ circularDependency ctx, v.Affects id) ↔
      Relation.TransGen ctx.diagram.Joins id id := fun id =>
    exists_affects_circularDependency_iff.trans Diagram.exists_mem_circuits_iff
  refine ⟨⟨hnodes, circularDependency_eq_nil_iff⟩, fun timestamp run h => ?_⟩
  have hfindings := findings_circularDependency h
  constructor
  · intro id
    rw [Run.exists_affects_iff, hfindings, hnodes]
  · rw [← Run.findings_eq_nil_iff, hfindings, circularDependency_eq_nil_iff]

end DesignRules.Checks
