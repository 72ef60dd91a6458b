import DesignRules.Proofs.Numeral
import DesignRules.Violation.Collector
import Mathlib.Data.List.Induction
import Mathlib.Data.List.Nodup

/-! # What a collector holds

After any additions, single or in batches, a collector holds what was put in, in order and
numbered from one on, and its counter is the number of violations.
-/

namespace DesignRules

namespace Summary

/-- Every violation is counted under one severity. -/
theorem sum_of (vs : List Violation) :
    (of vs).critical + (of vs).warning + (of vs).info = vs.length := by
  induction vs with
  | nil => rfl
  | cons v vs ih =>
    simp only [of, count, List.filter_cons, List.length_cons] at ih ⊢
    cases v.severity <;> simp <;> omega

end Summary

namespace Collector

/-- What can be done with a collector. -/
inductive Operation where
  | add (v : Violation)
  | extend (vs : List Violation)

/-- The violations that an operation puts in. -/
def Operation.inputs : Operation → List Violation
  | .add v => [v]
  | .extend vs => vs

def perform (c : Collector) : Operation → Collector
  | .add v => c.add v
  | .extend vs => c.extend vs

/-- The collector after a history of operations. -/
def after (history : List Operation) : Collector := history.foldl perform empty

/-- The collector holds these violations, numbered from one on. -/
structure Holds (c : Collector) (inputs : List Violation) : Prop where
  violations : c.violations =
    inputs.mapIdx fun i v => { v with id := "DRC-VIOLATION-" ++ Numeral.ofNat (i + 1) }
  total : c.total = inputs.length

variable {c : Collector} {inputs vs : List Violation} {v : Violation}

theorem holds_empty : empty.Holds [] := ⟨rfl, rfl⟩

theorem Holds.add (h : c.Holds inputs) (v : Violation) : (c.add v).Holds (inputs ++ [v]) where
  violations := by
    rw [List.mapIdx_append, ← h.violations, Collector.add, h.total]
    simp [number]
  total := by
    rw [List.length_append, ← h.total]
    rfl

theorem Holds.extend (h : c.Holds inputs) (vs : List Violation) :
    (c.extend vs).Holds (inputs ++ vs) := by
  induction vs generalizing c inputs with
  | nil =>
    rw [List.append_nil]
    exact h
  | cons v vs ih =>
    have hv := ih (h.add v)
    rwa [List.append_assoc] at hv

theorem Holds.perform (h : c.Holds inputs) (op : Operation) :
    (c.perform op).Holds (inputs ++ op.inputs) := by
  cases op with
  | add v => exact h.add v
  | extend vs => exact h.extend vs

theorem holds_after (history : List Operation) :
    (after history).Holds (history.flatMap Operation.inputs) := by
  induction history using List.reverseRecOn with
  | nil => exact holds_empty
  | append_singleton history op ih =>
    rw [after, List.foldl_append, List.flatMap_append, List.flatMap_singleton]
    exact ih.perform op

theorem Holds.length_violations (h : c.Holds inputs) : c.violations.length = c.total := by
  rw [h.violations, List.length_mapIdx, h.total]

/-- The three counts of a collector add up to its total. -/
theorem Holds.sum_summary (h : c.Holds inputs) :
    c.summary.critical + c.summary.warning + c.summary.info = c.total := by
  rw [summary, Summary.sum_of, h.length_violations]

/-- The identifiers count the violations. -/
theorem Holds.map_id_eq (h : c.Holds inputs) : c.violations.map (·.id) =
    (List.range c.total).map fun i => "DRC-VIOLATION-" ++ Numeral.ofNat (i + 1) := by
  rw [h.violations, h.total]
  apply List.ext_getElem <;> simp

/-- No number is given twice. -/
theorem Holds.nodup_ids (h : c.Holds inputs) : (c.violations.map (·.id)).Nodup := by
  rw [h.map_id_eq]
  refine List.nodup_range.map fun i j hij => ?_
  have hnumber := Numeral.ofNat_injective ((String.append_right_inj _).mp hij)
  omega

end Collector

end DesignRules
