import DesignRules.Proofs.Graph.Basic
import Mathlib.Data.List.Flatten

/-! # Repeated identifiers

A graph adopts the first entry of every identifier. Without the entries that repeat one it is
the same, but a list of findings at all entries is the same only if none is made at those.
-/

namespace DesignRules

/-- The entries that repeat no identifier of an earlier one. -/
def firstEntries : List Node → List Node
  | [] => []
  | n :: rest => n :: (firstEntries rest).filter (·.id != n.id)

/-- The diagram without the entries that repeat an identifier. -/
def Diagram.unrepeated (d : Diagram) : Diagram := ⟨firstEntries d.nodes, d.edges⟩

theorem firstEntries_append_singleton (l : List Node) (n : Node) : firstEntries (l ++ [n]) =
    if n.id ∈ l.map (·.id) then firstEntries l else firstEntries l ++ [n] := by
  induction l with
  | nil => simp [firstEntries]
  | cons m l ih =>
    rw [List.cons_append, firstEntries, ih, firstEntries]
    simp only [List.map_cons, List.mem_cons]
    by_cases hl : n.id ∈ l.map (·.id)
    · rw [if_pos hl, if_pos (.inr hl)]
    · rw [if_neg hl, List.filter_append]
      by_cases hm : n.id = m.id
      · rw [if_pos (.inl hm)]
        simp [hm]
      · rw [if_neg (by simp only [hm, hl, or_self, not_false_iff])]
        simp [hm]

theorem firstEntries_sublist (l : List Node) : (firstEntries l).Sublist l := by
  induction l with
  | nil => exact .slnil
  | cons n l ih => exact (List.filter_sublist.trans ih).cons_cons n

theorem map_id_firstEntries (l : List Node) :
    (firstEntries l).map (·.id) = (l.map (·.id)).eraseDups := by
  induction l using List.reverseRecOn with
  | nil => rfl
  | append_singleton l n ih =>
    rw [firstEntries_append_singleton, List.map_append, List.map_singleton,
      eraseDups_append_singleton, ← ih]
    split
    · rfl
    · exact List.map_append

theorem find?_firstEntries (l : List Node) (id : String) :
    (firstEntries l).find? (·.id == id) = l.find? (·.id == id) := by
  induction l with
  | nil => rfl
  | cons n l ih =>
    rw [firstEntries, List.find?_cons, List.find?_cons]
    cases hn : n.id == id with
    | true => rfl
    | false =>
      have hfilter : ∀ m : Node, decide (m.id != n.id ∧ m.id == id) = (m.id == id) := by
        intro m
        rw [Bool.eq_iff_iff]
        grind
      rw [List.find?_filter, ← ih]
      simp only [hfilter]

/-- A list of findings, some at each entry, keeps all without the entries that repeat an identifier
exactly if there is none at those. -/
theorem flatMap_firstEntries_eq_iff {β : Type} {f : Node → List β} (l : List Node) :
    (firstEntries l).flatMap f = l.flatMap f ↔ l.Pairwise fun m n => m.id = n.id → f n = [] := by
  induction l using List.reverseRecOn with
  | nil => simp [firstEntries]
  | append_singleton l n ih =>
    have hlength := ((firstEntries_sublist l).flatMap f).length_le
    rw [firstEntries_append_singleton, List.pairwise_append, ← ih]
    simp only [List.pairwise_singleton, List.mem_singleton, forall_eq, true_and]
    split
    case isTrue hn =>
      obtain ⟨m, hm, hid⟩ := List.mem_map.mp hn
      rw [List.flatMap_append, List.flatMap_singleton]
      constructor
      · intro h
        -- nothing can be found at the entry, since the entries before it find no less
        have hsum := congrArg List.length h
        rw [List.length_append] at hsum
        have hnil : f n = [] := List.length_eq_zero_iff.mp (by omega)
        exact ⟨by simpa [hnil] using h, fun _ _ _ => hnil⟩
      · rintro ⟨h, hnil⟩
        rw [h, hnil m hm hid, List.append_nil]
    case isFalse hn =>
      rw [List.flatMap_append, List.flatMap_append, List.append_left_inj]
      refine (and_iff_left fun m hm hid => absurd ?_ hn).symm
      exact List.mem_map.mpr ⟨m, hm, hid⟩

namespace Diagram

variable (d : Diagram)

theorem node?_unrepeated (id : String) : d.unrepeated.node? id = d.node? id :=
  find?_firstEntries d.nodes id

theorem ids_unrepeated : d.unrepeated.ids = d.ids := by
  rw [ids, unrepeated, map_id_firstEntries, eraseDups_of_nodup (nodup_eraseDups _), ← ids]

end Diagram

end DesignRules
