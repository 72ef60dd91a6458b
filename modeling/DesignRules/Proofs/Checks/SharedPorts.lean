import DesignRules.Proofs.Checks.Ports
import Mathlib.Algebra.BigOperators.Ring.Finset
import Mathlib.Data.Set.Card

/-! # Shared ports

A port is shared if it is named more than once, by two connections or by both ends of one. Each
shared port is reported once with every use of it, and no use of a port is lost.
-/

namespace DesignRules

/-- A whole number that a violation gives in its details. -/
def Violation.number? (v : Violation) (key : String) : Option Int :=
  match v.details.bind fun given => given.get? key with
  | some (.int n) => some n
  | _ => none

/-- The handles that a connection gives. -/
def Connection.handles (e : Connection) : List String :=
  (filled e.sourceHandle).toList ++ (filled e.targetHandle).toList

namespace Diagram

/-- The ports that the connections name, one after the other. -/
def namedPorts (d : Diagram) : List (String × String) := d.edges.flatMap Connection.namedPorts

/-- The connections that name a port, in their order. One that names it at both ends comes
twice. -/
def namers (d : Diagram) (port : String × String) : List Connection :=
  d.edges.flatMap fun e => List.replicate (e.namedPorts.count port) e

theorem length_namers (d : Diagram) (port : String × String) :
    (d.namers port).length = d.namedPorts.count port := by
  simp only [namers, namedPorts, List.length_flatMap, List.count_flatMap, List.length_replicate,
    Function.comp_def]

theorem two_le_length_namers_iff {d : Diagram} {port : String × String} :
    2 ≤ (d.namers port).length ↔
      port ∈ d.namedPorts ∧ decide (1 < d.namedPorts.count port) = true := by
  rw [length_namers, decide_eq_true_iff, ← List.count_pos_iff]
  omega

theorem length_namedPorts (d : Diagram) :
    d.namedPorts.length = (d.edges.flatMap Connection.handles).length := by
  have hports : ∀ e : Connection, e.namedPorts.length = e.handles.length := fun e => by
    rw [Connection.namedPorts, Connection.handles]
    cases filled e.sourceHandle <;> cases filled e.targetHandle <;> rfl
  simp only [namedPorts, List.length_flatMap, hports]

end Diagram

namespace Checks

variable {ctx : Context}

theorem references_eq (e : Connection) :
    references e = e.namedPorts.map fun port => (port, e) := by
  unfold references Connection.namedPorts
  cases filled e.sourceHandle <;> cases filled e.targetHandle <;> rfl

theorem map_filter_references (e : Connection) (port : String × String) :
    ((references e).filter (·.1 == port)).map (·.2) =
      List.replicate (e.namedPorts.count port) e := by
  rw [references_eq, List.filter_map, List.map_map, List.count, List.countP_eq_length_filter]
  exact List.map_const'

theorem portUses_eq (d : Diagram) :
    portUses d = d.namedPorts.eraseDups.map fun port => (port, d.namers port) := by
  rw [portUses, groupBy, map_key_references, List.map_map]
  refine List.map_congr_left fun port _ => Prod.ext rfl ?_
  simp only [Function.comp_apply, List.filter_flatMap, List.map_flatMap, map_filter_references,
    Diagram.namers]

theorem portUniqueness_eq (ctx : Context) : portUniqueness ctx =
    (ctx.diagram.namedPorts.eraseDups.filter fun port =>
      decide (1 < ctx.diagram.namedPorts.count port)).map
        fun port => sharedPort ctx port.1 port.2 (ctx.diagram.namers port) := by
  rw [portUniqueness, portUses_eq, List.filter_map, List.map_map]
  simp only [Function.comp_def, Diagram.length_namers]

/-- The violation reports a port with every use of it. -/
structure ReportsSharing (d : Diagram) (v : Violation) (port : String × String) : Prop where
  ruleId : v.ruleId = Rule.portUniqueness.code
  components : v.affectedComponents = some [port.1]
  interfaces : v.affectedInterfaces = some [port.2]
  connections : v.affectedConnections = some (edgeIds (d.namers port))
  count : v.number? "connectionCount" = some ((d.namers port).length : ℤ)

theorem reportsSharing_sharedPort (ctx : Context) (port : String × String) :
    ReportsSharing ctx.diagram (sharedPort ctx port.1 port.2 (ctx.diagram.namers port)) port :=
  ⟨rfl, rfl, rfl, rfl, rfl⟩

theorem exists_reportsSharing {port : String × String}
    (h : 2 ≤ (ctx.diagram.namers port).length) :
    ∃ v ∈ portUniqueness ctx, ReportsSharing ctx.diagram v port := by
  obtain ⟨hmem, hcount⟩ := Diagram.two_le_length_namers_iff.mp h
  rw [portUniqueness_eq]
  exact ⟨_, List.mem_map_of_mem (List.mem_filter.mpr ⟨List.mem_eraseDups.mpr hmem, hcount⟩),
    reportsSharing_sharedPort ctx port⟩

theorem sum_connectionCount (ctx : Context) :
    ((portUniqueness ctx).filterMap (·.number? "connectionCount")).sum =
      (ctx.diagram.namedPorts.countP fun port =>
        decide (1 < ctx.diagram.namedPorts.count port) : ℕ) := by
  have hcount : ∀ port, (sharedPort ctx port.1 port.2 (ctx.diagram.namers port)).number?
      "connectionCount" = some (ctx.diagram.namedPorts.count port : ℤ) := by
    intro port
    rw [(reportsSharing_sharedPort ctx port).count, Diagram.length_namers]
  rw [portUniqueness_eq, List.filterMap_map, ← sum_count_filter_eraseDups, Nat.cast_list_sum,
    List.map_map]
  simp only [Function.comp_def, hcount]
  rw [← List.filterMap_eq_map]
  rfl

/-- The ports that are named once are as many as their uses. -/
theorem ncard_named_once (d : Diagram) : {port | d.namedPorts.count port = 1}.ncard =
    d.namedPorts.countP fun port => decide (d.namedPorts.count port ≤ 1) := by
  have hmem : ∀ port, port ∈ d.namedPorts.eraseDups.filter (fun port =>
      decide (d.namedPorts.count port ≤ 1)) ↔ d.namedPorts.count port = 1 := by
    intro port
    rw [List.mem_filter, List.mem_eraseDups, decide_eq_true_iff, ← List.count_pos_iff]
    omega
  rw [← sum_count_filter_eraseDups, List.map_congr_left fun port hport => (hmem port).mp hport,
    List.map_const', List.sum_replicate, nsmul_one, Nat.cast_id,
    ← List.toFinset_card_of_nodup ((nodup_eraseDups _).filter _), ← Set.ncard_coe_finset]
  refine congrArg Set.ncard (Set.ext fun port => ?_)
  rw [List.coe_toFinset]
  exact (hmem port).symm

/-- Exactly the ports with several uses are reported, each once with all its uses and in the order
of its first use. The uses of the reported ports and the ports with one use are together as
many as the handles that are given. -/
theorem portUniqueness_exact (ctx : Context) :
    (∃ ports, ListsFirst ctx.diagram.namedPorts
        (fun port => 2 ≤ (ctx.diagram.namers port).length) ports ∧
      List.Forall₂ (ReportsSharing ctx.diagram) (portUniqueness ctx) ports) ∧
    ((portUniqueness ctx).filterMap (·.number? "connectionCount")).sum +
        {port | (ctx.diagram.namers port).length = 1}.ncard =
      (ctx.diagram.edges.flatMap Connection.handles).length := by
  constructor
  · refine ⟨_, listsFirst_filter_eraseDups fun _ => Diagram.two_le_length_namers_iff, ?_⟩
    rw [portUniqueness_eq, List.forall₂_map_left_iff, List.forall₂_same]
    exact fun port _ => reportsSharing_sharedPort ctx port
  · simp only [Diagram.length_namers]
    rw [sum_connectionCount, ncard_named_once, ← Diagram.length_namedPorts,
      List.length_eq_countP_add_countP fun port => decide (1 < ctx.diagram.namedPorts.count port)]
    simp

end Checks

end DesignRules
