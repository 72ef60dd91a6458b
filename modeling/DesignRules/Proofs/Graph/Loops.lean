import DesignRules.Proofs.Graph.Circuits
import Mathlib.Data.List.MinMax
import Mathlib.Logic.Relation

/-! # Loops and closed walks

Every loop is a rotation of one circuit, so that any list of the loops, each in whatever
rotation and order, becomes the list of circuits once its members are rotated and sorted.
Every closed walk holds a loop through its start.
-/

namespace DesignRules.Diagram

variable (d : Diagram)

def isEarliestIn (c : List String) (id : String) : Bool :=
  c.all fun other => decide (d.position id ≤ d.position other)

/-- A loop rotated to its earliest node. -/
def fromEarliest (c : List String) : List String := c.rotate (c.findIdx (d.isEarliestIn c))

/-- Loops rotated to their earliest nodes and sorted by positions. -/
def arranged (loops : List (List String)) : List (List String) :=
  (loops.map d.fromEarliest).mergeSort fun a b => decide (d.positions a ≤ d.positions b)

/-- The loops of a graph, each once, in any rotation and any order. -/
structure Enumerates (loops : List (List String)) : Prop where
  isLoop : ∀ c ∈ loops, d.IsLoop c
  once : ∀ c, d.IsLoop c → loops.countP (fun loop => decide (c.IsRotated loop)) = 1

variable {d} {c c' : List String}

/-! ## Rotating loops -/

theorem IsLoop.rotate (h : d.IsLoop c) (n : ℕ) : d.IsLoop (c.rotate n) := by
  induction n generalizing c with
  | zero => simpa using h
  | succ n ih =>
    obtain ⟨a, l, rfl⟩ := List.exists_cons_of_ne_nil h.ne_nil
    rw [List.rotate_cons_succ]
    apply ih
    obtain ⟨hn, hc⟩ := isLoop_cons_iff.mp h
    cases l with
    | nil => exact h
    | cons b l =>
      rw [List.cons_append, List.cons_append, List.isChain_cons_cons] at hc
      refine isLoop_cons_iff.mpr ⟨?_, ?_⟩
      · exact (List.perm_append_singleton a (b :: l)).nodup_iff.mpr hn
      · refine List.isChain_append.mpr ⟨hc.2, List.isChain_singleton b, ?_⟩
        simpa [List.getLast?_cons] using hc.1

theorem exists_earliest (hc : c ≠ []) : ∃ id ∈ c, d.isEarliestIn c id := by
  cases h : c.argmin d.position with
  | none => exact absurd (List.argmin_eq_none.mp h) hc
  | some id =>
    refine ⟨id, List.argmin_mem h, ?_⟩
    simpa [isEarliestIn] using fun other hother => List.le_of_mem_argmin hother h

theorem IsLoop.isCircuit_fromEarliest (h : d.IsLoop c) : d.IsCircuit (d.fromEarliest c) := by
  have hlt := List.findIdx_lt_length.mpr (exists_earliest (d := d) h.ne_nil)
  refine ⟨h.rotate _, fun root hroot id hid => ?_⟩
  rw [fromEarliest, List.head?_rotate hlt, List.getElem?_eq_getElem hlt] at hroot
  obtain rfl := Option.some_inj.mp hroot
  have hmin : d.isEarliestIn c _ := List.findIdx_getElem (w := hlt)
  simp only [isEarliestIn, List.all_eq_true, decide_eq_true_eq] at hmin
  exact hmin id (List.mem_rotate.mp hid)

/-- A loop is a rotation of at most one circuit. -/
theorem IsCircuit.eq_of_isRotated (h : d.IsCircuit c) (h' : d.IsCircuit c')
    (hr : c.IsRotated c') : c = c' := by
  obtain ⟨a, l, rfl⟩ := List.exists_cons_of_ne_nil h.ne_nil
  obtain ⟨b, l', rfl⟩ := List.exists_cons_of_ne_nil h'.ne_nil
  have hab : d.position a = d.position b := le_antisymm
    (h.earliest a rfl b (hr.mem_iff.mpr List.mem_cons_self))
    (h'.earliest b rfl a (hr.mem_iff.mp List.mem_cons_self))
  obtain rfl : a = b := position_inj (h.subset_ids List.mem_cons_self) hab
  obtain ⟨n, hn⟩ := hr
  have hlt : n % (a :: l).length < (a :: l).length := Nat.mod_lt _ (by simp)
  have hhead := congrArg List.head? hn
  rw [← List.rotate_mod, List.head?_rotate hlt, List.getElem?_eq_getElem hlt, List.head?_cons,
    Option.some_inj] at hhead
  have hfirst : (a :: l)[n % (a :: l).length] = (a :: l)[0] := hhead
  have hzero := h.nodup.getElem_inj_iff.mp hfirst
  rw [← hn, ← List.rotate_mod, hzero, List.rotate_zero]

theorem IsLoop.fromEarliest_eq_iff (h : d.IsLoop c) (h' : d.IsCircuit c') :
    d.fromEarliest c = c' ↔ c'.IsRotated c := by
  have hr : (d.fromEarliest c).IsRotated c := List.IsRotated.forall c _
  constructor
  · rintro rfl
    exact hr
  · exact fun hc => h.isCircuit_fromEarliest.eq_of_isRotated h' (hr.trans hc.symm)

theorem Enumerates.count_map_fromEarliest {loops : List (List String)} (h : d.Enumerates loops)
    (hc : d.IsCircuit c) : (loops.map d.fromEarliest).count c = 1 := by
  rw [← h.once c hc.toIsLoop, List.count, List.countP_map]
  refine List.countP_congr fun loop hloop => ?_
  simpa using (h.isLoop loop hloop).fromEarliest_eq_iff hc

/-- However the loops are enumerated, rotating and sorting them gives the circuits. -/
theorem Enumerates.arranged_eq {loops : List (List String)} (h : d.Enumerates loops) :
    d.arranged loops = d.circuits := by
  have hmem : ∀ c ∈ loops.map d.fromEarliest, d.IsCircuit c := by
    simpa using fun loop hloop => (h.isLoop loop hloop).isCircuit_fromEarliest
  have hperm : (loops.map d.fromEarliest).Perm d.circuits := by
    refine List.perm_iff_count.mpr fun c => ?_
    by_cases hc : d.IsCircuit c
    · rw [h.count_map_fromEarliest hc, nodup_circuits.count, if_pos (mem_circuits_iff.mpr hc)]
    · rw [List.count_eq_zero_of_not_mem fun hm => hc (hmem c hm),
        List.count_eq_zero_of_not_mem fun hm => hc (mem_circuits_iff.mp hm)]
  have hsorted : (d.arranged loops).Pairwise fun a b => decide (d.positions a ≤ d.positions b) :=
    List.pairwise_mergeSort
      (fun _ _ _ hab hbc => decide_eq_true ((of_decide_eq_true hab).trans (of_decide_eq_true hbc)))
      (fun a b => by simpa using le_total _ _) (loops.map d.fromEarliest)
  refine ((List.mergeSort_perm _ _).trans hperm).eq_of_pairwise ?_ hsorted
    (pairwise_circuits.imp fun hlt => by simpa using hlt.le)
  intro a b _ hb hab hba
  have he := le_antisymm (of_decide_eq_true hab) (of_decide_eq_true hba)
  exact (positions_inj (mem_circuits_iff.mp hb).subset_ids he.symm).symm

/-- The circuits themselves are such an enumeration. -/
theorem enumerates_circuits : d.Enumerates d.circuits := by
  refine ⟨fun c hc => (mem_circuits_iff.mp hc).toIsLoop, fun c hc => ?_⟩
  rw [← List.count_eq_one_of_mem nodup_circuits (mem_circuits_iff.mpr hc.isCircuit_fromEarliest),
    List.count]
  refine List.countP_congr fun c' hc' => ?_
  have hiff := hc.fromEarliest_eq_iff (mem_circuits_iff.mp hc')
  simp only [decide_eq_true_eq, beq_iff_eq]
  rw [eq_comm, hiff]
  exact List.isRotated_comm

/-! ## Closed walks -/

theorem exists_nodup_isChain {α : Type} {r : α → α → Prop} {a b : α}
    (h : Relation.ReflTransGen r a b) :
    ∃ l, (a :: l).Nodup ∧ (a :: l).IsChain r ∧ (a :: l).getLast? = some b := by
  induction h using Relation.ReflTransGen.head_induction_on with
  | refl => exact ⟨[], by simp⟩
  | @head a c hac _ ih =>
    obtain ⟨l, hn, hc, hl⟩ := ih
    by_cases ha : a ∈ c :: l
    · -- the walk comes back to `a`: what it did until then is left out
      obtain ⟨before, after, he⟩ := List.append_of_mem ha
      rw [he] at hn hc hl
      refine ⟨after, (List.nodup_append.mp hn).2.1, (List.isChain_append.mp hc).2.1, ?_⟩
      simpa [List.getLast?_append] using hl
    · exact ⟨c :: l, List.nodup_cons.mpr ⟨ha, hn⟩, List.isChain_cons_cons.mpr ⟨hac, hc⟩,
        by simpa using hl⟩

/-- A closed walk holds a loop from its first node on. -/
theorem exists_isLoop_cons {a : String} (h : Relation.TransGen d.Joins a a) :
    ∃ l, d.IsLoop (a :: l) := by
  obtain ⟨b, hab, hba⟩ := Relation.TransGen.tail'_iff.mp h
  obtain ⟨l, hn, hc, hl⟩ := exists_nodup_isChain hab
  refine ⟨l, isLoop_cons_iff.mpr ⟨hn, List.isChain_append.mpr ⟨hc, List.isChain_singleton a, ?_⟩⟩⟩
  rw [hl]
  simpa using hba

theorem IsLoop.transGen {a : String} {l : List String} (h : d.IsLoop (a :: l)) :
    Relation.TransGen d.Joins a a := by
  obtain ⟨hc, _, hlast⟩ := List.isChain_append.mp (isLoop_cons_iff.mp h).2
  have hj := hlast _ (List.getLast?_eq_some_getLast (List.cons_ne_nil a l)) a rfl
  exact .tail' (List.relationReflTransGen_of_exists_isChain_cons l hc rfl) hj

/-- There is no circuit exactly if no walk leads from a node back to it. -/
theorem circuits_eq_nil_iff : d.circuits = [] ↔ ∀ id, ¬ Relation.TransGen d.Joins id id := by
  constructor
  · intro h id hid
    obtain ⟨l, hl⟩ := exists_isLoop_cons hid
    have := mem_circuits_iff.mpr hl.isCircuit_fromEarliest
    simp [h] at this
  · intro h
    refine List.eq_nil_iff_forall_not_mem.mpr fun c hc => ?_
    have hc := (mem_circuits_iff.mp hc).toIsLoop
    obtain ⟨a, l, rfl⟩ := List.exists_cons_of_ne_nil hc.ne_nil
    exact h a hc.transGen

end DesignRules.Diagram
