import DesignRules.Proofs.Checks.Reports
import DesignRules.Proofs.Graph.Basic
import DesignRules.Proofs.Grouping

/-! # Ports

When no port is used twice, and when no port is contended for.
-/

namespace DesignRules

/-- The ports that a connection names by their handles. -/
def Connection.namedPorts (e : Connection) : List (String × String) :=
  ((filled e.sourceHandle).map fun handle => (e.source, handle)).toList ++
    ((filled e.targetHandle).map fun handle => (e.target, handle)).toList

namespace Checks

open Check

variable {ctx : Context}

theorem map_references (e : Connection) : (references e).map (·.1) = e.namedPorts := by
  unfold references Connection.namedPorts
  cases filled e.sourceHandle <;> cases filled e.targetHandle <;> rfl

theorem map_key_references (d : Diagram) : (d.edges.flatMap references).map (·.1) =
    d.edges.flatMap Connection.namedPorts := by
  simp only [List.map_flatMap, map_references]

theorem length_portUniqueness (ctx : Context) : (portUniqueness ctx).length =
    (groupBy (·.1) (ctx.diagram.edges.flatMap references)).countP fun group =>
      decide (1 < group.2.length) := by
  rw [portUniqueness, List.length_map, ← List.countP_eq_length_filter, portUses, List.countP_map]
  simp only [Function.comp_def, List.length_map]

theorem clean_portUniqueness_iff : (ofPure portUniqueness).Clean ctx ↔
    (ctx.diagram.edges.flatMap Connection.namedPorts).Nodup := by
  rw [clean_ofPure_iff_eq_nil reportsOnly_portUniqueness rfl (by decide), portUniqueness,
    List.map_eq_nil_iff, List.filter_eq_nil_iff, portUses, List.forall_mem_map,
    ← map_key_references, ← forall_groupBy_length_le_one_iff]
  simp

/-! ## Contended ports -/

theorem map_drivers (edges : List Connection) :
    (drivers edges).map (·.1) = (edges.map (·.source)).eraseDups := by
  rw [drivers, List.map_filterMap, groupBy, List.filterMap_map]
  refine (List.filterMap_congr fun k hk => ?_).trans List.filterMap_some
  obtain ⟨e, he, rfl⟩ := List.mem_map.mp (List.mem_eraseDups.mp hk)
  have hmem : e ∈ edges.filter (·.source == e.source) := List.mem_filter.mpr ⟨he, by simp⟩
  obtain ⟨first, hfirst⟩ := Option.isSome_iff_exists.mp
    (List.isSome_head?.mpr (List.ne_nil_of_mem hmem))
  simp [hfirst]

theorem length_drivers (edges : List Connection) :
    (drivers edges).length = (edges.map (·.source)).eraseDups.length := by
  rw [← map_drivers, List.length_map]

theorem length_drivers_le_one_iff {edges : List Connection} :
    (drivers edges).length ≤ 1 ↔ ∀ e ∈ edges, ∀ f ∈ edges, e.source = f.source := by
  rw [length_drivers, length_eraseDups_le_one_iff]
  simp only [List.forall_mem_map]

theorem not_isContended_iff {node : String} {edges : List Connection} :
    ¬ isContended ctx node edges ↔ ∀ n, ctx.diagram.node? node = some n →
      ctx.isArbiter n = false → ∀ e ∈ edges, ∀ f ∈ edges, e.source = f.source := by
  rw [← length_drivers_le_one_iff, isContended]
  cases ctx.diagram.node? node with
  | none => simp
  | some n =>
    simp only [Option.any_some, Bool.and_eq_true, decide_eq_true_eq, Bool.not_eq_true',
      Option.some.injEq, forall_eq', not_and', Nat.not_lt]

theorem target_eq_of_drivenPort_eq {e f : Connection} (h : drivenPort e = drivenPort f) :
    e.target = f.target :=
  congrArg Prod.fst h

section Groups

variable {d : Diagram} {node port : String} {e : Connection} {edges : List Connection}

theorem mem_drivenPorts_iff : ((node, port), edges) ∈ drivenPorts d ↔
    (∃ e ∈ d.edges, d.hasNode node ∧ drivenPort e = (node, port)) ∧
      edges = (d.edges.filter fun e => d.hasNode e.target).filter
        (drivenPort · == (node, port)) := by
  rw [drivenPorts, mem_groupBy_iff, List.mem_map]
  refine and_congr_left fun _ => exists_congr fun e => ?_
  rw [List.mem_filter, and_assoc]
  refine and_congr_right fun _ => and_congr_left fun hport => ?_
  have htarget : e.target = node := congrArg Prod.fst hport
  rw [htarget]

/-- The edges of a group are all those that name its port. -/
theorem mem_iff_of_mem_drivenPorts (h : ((node, port), edges) ∈ drivenPorts d) :
    e ∈ edges ↔ e ∈ d.edges ∧ drivenPort e = (node, port) := by
  obtain ⟨⟨f, _, hnode, _⟩, rfl⟩ := mem_drivenPorts_iff.mp h
  rw [List.mem_filter, List.mem_filter, beq_iff_eq, and_assoc]
  refine and_congr_right fun _ => and_iff_right_of_imp fun hport => ?_
  have htarget : e.target = node := congrArg Prod.fst hport
  exact htarget ▸ hnode

end Groups

/-- Only the edges that drive one port of a component that is no arbiter are compared. -/
theorem clean_multipleMasters_iff : (ofPure multipleMasters).Clean ctx ↔
    ∀ e ∈ ctx.diagram.edges, ∀ f ∈ ctx.diagram.edges, drivenPort e = drivenPort f →
      ∀ n, ctx.diagram.node? e.target = some n → ctx.isArbiter n = false →
        e.source = f.source := by
  rw [clean_ofPure_iff_eq_nil reportsOnly_multipleMasters rfl (by decide), multipleMasters,
    List.map_eq_nil_iff, List.filter_eq_nil_iff, drivenPorts]
  refine (forall_mem_groupBy_iff (p := fun (port : String × String) edges =>
    ¬ isContended ctx port.1 edges)).trans ?_
  simp only [not_isContended_iff, List.mem_filter, beq_iff_eq]
  constructor
  · intro h e he f hf hport n hn hpassive
    have hnode := Diagram.hasNode_of_node? hn
    exact h e ⟨he, hnode⟩ n hn hpassive e ⟨⟨he, hnode⟩, rfl⟩ f
      ⟨⟨hf, target_eq_of_drivenPort_eq hport ▸ hnode⟩, hport.symm⟩
  · rintro h a - n hn hpassive e ⟨⟨he, -⟩, hea⟩ f ⟨⟨hf, -⟩, hfa⟩
    rw [← hea] at hn
    exact h e he f hf (hea.trans hfa.symm) n hn hpassive

end Checks

end DesignRules
