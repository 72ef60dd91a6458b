import DesignRules.Proofs.Checks.Locality
import DesignRules.Proofs.Checks.Topology
import DesignRules.Proofs.Graph.DepthFirst

/-! # Bounds on long paths

The depth of the search and the threshold decide which long paths are reported and nothing else:
narrower bounds give the same list without the paths outside them.
-/

namespace DesignRules

/-- The context with other bounds on paths. -/
def Context.bounding (ctx : Context) (depth threshold : ℤ) : Context :=
  { ctx with
    settings := { ctx.settings with maxPathDepth := depth, longPathThreshold := threshold } }

/-- The violation is about a path with more nodes than the threshold and at most `depth` edges. -/
def Violation.hasPathWithin (depth threshold : ℤ) (v : Violation) : Bool :=
  match v.detail? ["pathLength"] with
  | some (.int n) => decide (threshold < n) && decide (n ≤ depth + 1)
  | _ => false

namespace Checks

open Check Outcome

variable {depth depth' threshold threshold' : ℤ} {timestamp : String}

theorem hasPathWithin_longPath (ctx : Context) (path : List String) :
    (longPath ctx path).hasPathWithin depth threshold =
      (decide (threshold < path.length) && decide ((path.length : ℤ) ≤ depth + 1)) :=
  rfl

theorem longFrom_bounding (ctx : Context) (hdepth : depth ≤ depth')
    (hthreshold : threshold' ≤ threshold) (id : String) :
    longFrom (ctx.bounding depth threshold) id =
      (longFrom (ctx.bounding depth' threshold') id).filter fun path =>
        decide (threshold < path.length) && decide ((path.length : ℤ) ≤ depth + 1) := by
  change List.filter _ (ctx.diagram.terminalPaths id depth) =
    List.filter _ (List.filter _ (ctx.diagram.terminalPaths id depth'))
  rw [← Diagram.filter_length_terminalPaths hdepth, List.filter_filter, List.filter_filter]
  refine List.filter_congr fun path _ => ?_
  simp only [Context.bounding]
  grind

theorem longPaths_eq (ctx : Context) : longPaths ctx =
    (ctx.diagram.ids.filter (hasMaster ctx)).flatMap fun id =>
      (longFrom ctx id).map (longPath ctx) :=
  rfl

/-- Narrower bounds drop the paths outside them and keep the others as they are. -/
theorem longPaths_bounding_eq_filter (ctx : Context) (hdepth : depth ≤ depth')
    (hthreshold : threshold' ≤ threshold) : longPaths (ctx.bounding depth threshold) =
      (longPaths (ctx.bounding depth' threshold')).filter
        (Violation.hasPathWithin depth threshold) := by
  rw [longPaths_eq, longPaths_eq, List.filter_flatMap]
  refine List.flatMap_congr fun id _ => ?_
  rw [longFrom_bounding ctx hdepth hthreshold, List.filter_map]
  simp only [Function.comp_def, hasPathWithin_longPath]
  rfl

/-- The bounds do not matter to whether and how a run fails. -/
theorem map_const_run_bounding {α : Type} (ctx : Context) (a : α) :
    (Analysis.run timestamp (ctx.bounding depth threshold)).map (fun _ => a) =
      (Analysis.run timestamp (ctx.bounding depth' threshold')).map fun _ => a := by
  have hchecks : ∀ check ∈ Analysis.checks,
      (check (ctx.bounding depth threshold)).map (fun _ => ([] : List Unit)) =
        (check (ctx.bounding depth' threshold')).map fun _ => [] := by
    simp only [Analysis.checks_eq, List.forall_mem_cons, List.not_mem_nil, false_imp_iff,
      implies_true, and_true]
    and_intros <;> rfl
  have hends := Analysis.map_violations_congr rfl (fun _ _ => rfl) rfl (fun _ _ => rfl) hchecks
  unfold Analysis.run
  cases hnarrow : Analysis.violations (ctx.bounding depth threshold) <;>
    cases hwide : Analysis.violations (ctx.bounding depth' threshold') <;>
    simp_all [Except.map]

theorem map_findings_longPath (ctx : Context) (f : List Violation → List Violation) :
    (Analysis.run timestamp ctx).map (fun run => f (run.findings .longPath)) =
      (Analysis.run timestamp ctx).map fun _ => f (longPaths ctx) := by
  cases h : Analysis.run timestamp ctx with
  | error e => rfl
  | ok run => exact congrArg Except.ok (congrArg f (findings_longPath h))

/-- Narrower bounds on the depth and the threshold only drop long paths, in the check and in a
run, which ends or fails in the same way. The paths are those of any depth-first search. -/
theorem longPaths_bounding (ctx : Context) (hdepth : depth ≤ depth')
    (hthreshold : threshold' ≤ threshold) :
    longPaths (ctx.bounding depth threshold) =
      (longPaths (ctx.bounding depth' threshold')).filter
        (Violation.hasPathWithin depth threshold) ∧
    (∀ timestamp, (Analysis.run timestamp (ctx.bounding depth threshold)).map
        (fun run => run.findings .longPath) =
      (Analysis.run timestamp (ctx.bounding depth' threshold')).map fun run =>
        (run.findings .longPath).filter (Violation.hasPathWithin depth threshold)) ∧
    ∀ start bound walks, ctx.diagram.EnumeratesPaths start bound walks →
      ctx.diagram.IsDepthFirst walks →
        ctx.diagram.listed start walks = ctx.diagram.terminalPaths start bound := by
  have hlists := longPaths_bounding_eq_filter ctx hdepth hthreshold
  refine ⟨hlists, fun timestamp => ?_, fun _ _ _ h => h.listed_eq_terminalPaths⟩
  calc (Analysis.run timestamp (ctx.bounding depth threshold)).map (·.findings .longPath)
      = (Analysis.run timestamp (ctx.bounding depth threshold)).map fun _ =>
          longPaths (ctx.bounding depth threshold) := map_findings_longPath _ id
    _ = (Analysis.run timestamp (ctx.bounding depth' threshold')).map fun _ =>
          longPaths (ctx.bounding depth threshold) := map_const_run_bounding ctx _
    _ = (Analysis.run timestamp (ctx.bounding depth' threshold')).map fun run =>
          (run.findings .longPath).filter (Violation.hasPathWithin depth threshold) := by
        rw [hlists, map_findings_longPath _ (List.filter _)]

/-- A processor that reaches a memory directly and over a bridge, to which two connections
lead. -/
def detour : Context := Context.usual.on
  { nodes :=
      [⟨"cpu", "CPU", none, none, none, none, none, none,
         [⟨"m", "m", none, .master, none, none, none, none, none, false, []⟩]⟩,
       ⟨"bridge", "Bridge", none, none, none, none, none, none, []⟩,
       ⟨"mem", "Memory", none, none, none, none, none, none, []⟩]
    edges :=
      [⟨"e0", "cpu", "bridge", none, none, none⟩, ⟨"e1", "cpu", "mem", none, none, none⟩,
       ⟨"e2", "bridge", "mem", none, none, none⟩, ⟨"e3", "cpu", "bridge", none, none, none⟩] }

/-- Of the three paths the direct one is left under a depth of one, and the others are under a
threshold of two. -/
theorem longPaths_detour :
    (longPaths (detour.bounding 2 0)).map (·.affectedComponents) =
      [some ["cpu", "bridge", "mem"], some ["cpu", "bridge", "mem"], some ["cpu", "mem"]] ∧
    (longPaths (detour.bounding 1 0)).map (·.affectedComponents) = [some ["cpu", "mem"]] ∧
    (longPaths (detour.bounding 2 2)).map (·.affectedComponents) =
      [some ["cpu", "bridge", "mem"], some ["cpu", "bridge", "mem"]] ∧
    longPaths (detour.bounding 1 0) =
      (longPaths (detour.bounding 2 0)).filter (Violation.hasPathWithin 1 0) ∧
    longPaths (detour.bounding 2 2) =
      (longPaths (detour.bounding 2 0)).filter (Violation.hasPathWithin 2 2) :=
  ⟨by decide +kernel, by decide +kernel, by decide +kernel,
    (longPaths_bounding detour (by decide) (by decide)).1,
    (longPaths_bounding detour (by decide) (by decide)).1⟩

end Checks

end DesignRules
