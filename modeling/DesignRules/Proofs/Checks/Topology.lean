import DesignRules.Proofs.Analysis.Findings
import DesignRules.Proofs.Graph.EdgePaths
import DesignRules.Proofs.Graph.Loops

/-! # Circuits and long paths

The circuits and the terminal paths of a diagram, and how often a run reports each.
-/

namespace DesignRules.Checks

open Check

variable {ctx : Context} {timestamp : String} {run : Run}

/-! ## Circuits -/

theorem findings_circularDependency (h : Analysis.run timestamp ctx = .ok run) :
    run.findings .circularDependency = circularDependency ctx :=
  Analysis.findings_ofPure (i := 13) h rfl rfl

/-- The list of circuits is complete and free of repetition, ordered by positions, and what
any enumeration of the loops gives once rotated and sorted. A run reports its members one
by one with their lengths. -/
theorem circuits_exact (d : Diagram) :
    (∀ c, c ∈ d.circuits ↔ d.IsCircuit c) ∧ d.circuits.Nodup ∧
      d.circuits.Pairwise (fun a b => d.positions a < d.positions b) ∧
      (∀ loops, d.Enumerates loops → d.arranged loops = d.circuits) ∧
      ∀ ctx timestamp run, ctx.diagram = d → Analysis.run timestamp ctx = .ok run →
        (run.findings .circularDependency).map
            (fun v => (v.affectedComponents, v.details.bind (·.get? "cycleLength"))) =
          d.circuits.map fun c => (some c, some (.int c.length)) := by
  refine ⟨fun _ => Diagram.mem_circuits_iff, Diagram.nodup_circuits, Diagram.pairwise_circuits,
    fun _ h => h.arranged_eq, ?_⟩
  rintro ctx timestamp run rfl h
  rw [findings_circularDependency h, circularDependency, List.map_map]
  rfl

/-! ## Long paths -/

theorem findings_longPath (h : Analysis.run timestamp ctx = .ok run) :
    run.findings .longPath = longPaths ctx :=
  Analysis.findings_ofPure (i := 17) h rfl rfl

theorem hasMaster_iff {id : String} :
    hasMaster ctx id ↔ ∃ i ∈ ctx.interfaces id, i.direction = .master := by
  simp [hasMaster]

/-- The long terminal paths from a node. -/
def longFrom (ctx : Context) (id : String) : List (List String) :=
  (ctx.diagram.terminalPaths id ctx.settings.maxPathDepth).filter fun path =>
    decide (ctx.settings.longPathThreshold < path.length)

theorem map_components_longPaths : (longPaths ctx).map (·.affectedComponents) =
    ((ctx.diagram.ids.filter (hasMaster ctx)).flatMap (longFrom ctx)).map some := by
  simp only [longPaths, List.map_flatMap, List.map_map]
  rfl

theorem count_longFrom {start : String} {p : List String} : (longFrom ctx start).count p =
    if ctx.settings.longPathThreshold < p.length then
      (ctx.diagram.terminalPaths start ctx.settings.maxPathDepth).count p else 0 := by
  split
  case isTrue h => exact List.count_filter (by simpa using h)
  case isFalse h =>
    exact List.count_eq_zero_of_not_mem fun hm => h (by simpa using (List.mem_filter.mp hm).2)

theorem head?_of_mem_longFrom {start : String} {p : List String} (h : p ∈ longFrom ctx start) :
    p.head? = some start :=
  (Diagram.isTerminalPath_of_mem (List.mem_filter.mp h).1).starts

theorem hasNode_of_mem_longFrom {start : String} {p : List String} (h : p ∈ longFrom ctx start) :
    ctx.diagram.hasNode start :=
  (Diagram.isTerminalPath_of_mem (List.mem_filter.mp h).1).exist start
    (List.mem_of_mem_head? (head?_of_mem_longFrom h))

theorem count_components_longPaths (start : String) (rest : List String) :
    (longPaths ctx).countP (·.affectedComponents == some (start :: rest)) =
      if hasMaster ctx start then (longFrom ctx start).count (start :: rest) else 0 := by
  have hother : ∀ id ∈ ctx.diagram.ids.filter (hasMaster ctx), id ≠ start →
      (longFrom ctx id).count (start :: rest) = 0 := by
    intro id _ hne
    exact List.count_eq_zero_of_not_mem fun hm =>
      hne (Option.some_inj.mp (head?_of_mem_longFrom hm)).symm
  have hcount : (longPaths ctx).countP (·.affectedComponents == some (start :: rest)) =
      ((longPaths ctx).map (·.affectedComponents)).count (some (start :: rest)) := by
    rw [List.count, List.countP_map]
    rfl
  rw [hcount, map_components_longPaths, List.count_map_of_injective _ _ (Option.some_injective _),
    count_flatMap_of_unique hother, (Diagram.nodup_ids.filter _).count]
  by_cases hnode : ctx.diagram.hasNode start
  · simp [List.mem_filter, Diagram.mem_ids_iff, hnode]
  · rw [List.count_eq_zero_of_not_mem fun hm => hnode (hasNode_of_mem_longFrom hm)]
    simp

/-- A sequence of nodes is a terminal path as often as there are ways to follow it, so that the
terminal paths are what any enumeration of the edge paths gives. A run reports each of them
that is long and whose first node has a master interface. -/
theorem longPaths_exact (d : Diagram) :
    (∀ start depth p, (d.terminalPaths start depth).count p =
      if d.IsTerminalPath start depth p then d.routes p else 0) ∧
    (∀ start depth walks, d.EnumeratesPaths start depth walks →
      (d.listed start walks).Perm (d.terminalPaths start depth)) ∧
    ∀ ctx timestamp run, ctx.diagram = d → Analysis.run timestamp ctx = .ok run →
      (∀ v ∈ run.findings .longPath, ∃ start rest, v.affectedComponents = some (start :: rest)) ∧
      ∀ start rest,
        (run.findings .longPath).countP (·.affectedComponents == some (start :: rest)) =
          if (∃ i ∈ ctx.interfaces start, i.direction = .master) ∧
              ctx.settings.longPathThreshold < (start :: rest).length then
            (d.terminalPaths start ctx.settings.maxPathDepth).count (start :: rest)
          else 0 := by
  refine ⟨fun _ _ _ => Diagram.count_terminalPaths, fun _ _ _ h => h.listed_perm, ?_⟩
  rintro ctx timestamp run rfl h
  rw [findings_longPath h]
  constructor
  · intro v hv
    have hmem := List.mem_map_of_mem (f := (·.affectedComponents)) hv
    rw [map_components_longPaths] at hmem
    obtain ⟨p, hp, he⟩ := List.mem_map.mp hmem
    obtain ⟨start, _, hp⟩ := List.mem_flatMap.mp hp
    obtain ⟨rest, rfl⟩ := List.head?_eq_some_iff.mp (head?_of_mem_longFrom hp)
    exact ⟨start, rest, he.symm⟩
  · intro start rest
    rw [count_components_longPaths, count_longFrom, ite_and]
    simp only [hasMaster_iff]

end DesignRules.Checks
