import DesignRules.Proofs.Graph.Basic
import DesignRules.Proofs.Graph.SimplePaths
import Mathlib.Tactic.MkIffOfInductiveProp

/-! # Counting terminal paths

A path to a terminal node is listed once for every choice of an edge between each two of
its consecutive nodes, so parallel edges multiply.
-/

namespace DesignRules.Diagram

variable (d : Diagram)

/-- The number of edges from one node to another. -/
def edgeCount (a b : String) : ℕ := d.edges.countP fun e => e.source == a && e.target == b

/-- The number of ways to follow a sequence of nodes edge by edge. -/
def routes (p : List String) : ℕ := (List.zipWith d.edgeCount p p.tail).prod

/-- A sequence of distinct existing nodes with at least one and at most `depth` steps, from
whose end no edge leads to an existing node. -/
@[mk_iff]
structure IsTerminalPath (start : String) (depth : ℤ) (p : List String) : Prop where
  starts : p.head? = some start
  moves : 2 ≤ p.length
  within : (p.length : ℤ) ≤ depth + 1
  nodup : p.Nodup
  exist : ∀ id ∈ p, d.hasNode id
  ends : ∀ e ∈ d.edges, p.getLast? = some e.source → ¬ d.hasNode e.target

instance (start : String) (depth : ℤ) (p : List String) :
    Decidable (d.IsTerminalPath start depth p) :=
  decidable_of_iff _ (d.isTerminalPath_iff start depth p).symm

variable {d} {a b start : String} {depth : ℤ} {p rest : List String}

/-! ## Steps -/

theorem mem_targets_iff : b ∈ d.targets a ↔ d.Joins a b := by
  simp only [targets, innerEdges, isInner, Joins, List.mem_map, List.mem_filter, Bool.and_eq_true,
    beq_iff_eq]
  grind

theorem count_targets (ha : d.hasNode a) (hb : d.hasNode b) :
    (d.targets a).count b = d.edgeCount a b := by
  rw [targets, innerEdges, List.count, List.countP_map, List.countP_filter, List.countP_filter,
    edgeCount]
  refine List.countP_congr fun e _ => ?_
  simp only [Function.comp_apply, isInner, Bool.and_eq_true, beq_iff_eq]
  grind

theorem count_parallelSuccessors (a b : String) :
    (d.parallelSuccessors a).count b = (d.targets a).count b := by
  have h : ∀ c ∈ (d.targets a).eraseDups, c ≠ b →
      ((d.targets a).filter (· == c)).count b = 0 := by
    intro c _ hc
    exact List.count_eq_zero_of_not_mem fun hm => hc (beq_iff_eq.mp (List.mem_filter.mp hm).2).symm
  rw [parallelSuccessors, count_flatMap_of_unique h, (nodup_eraseDups _).count,
    List.count_filter (by simp)]
  split
  case isTrue => exact Nat.one_mul _
  case isFalse hb =>
    rw [List.mem_eraseDups] at hb
    rw [List.count_eq_zero_of_not_mem hb]

theorem mem_parallelSuccessors_iff : b ∈ d.parallelSuccessors a ↔ d.Joins a b := by
  rw [← List.count_pos_iff, count_parallelSuccessors, List.count_pos_iff, mem_targets_iff]

theorem prod_zipWith_congr {f g : String → String → ℕ} {v : String}
    (h : ∀ a ∈ v :: rest, ∀ b ∈ v :: rest, f a b = g a b) :
    (List.zipWith f (v :: rest) rest).prod = (List.zipWith g (v :: rest) rest).prod := by
  induction rest generalizing v with
  | nil => rfl
  | cons w rest ih =>
    rw [List.zipWith_cons_cons, List.zipWith_cons_cons, List.prod_cons, List.prod_cons,
      h v List.mem_cons_self w (by simp), ih fun a ha b hb =>
        h a (List.mem_cons_of_mem v ha) b (List.mem_cons_of_mem v hb)]

theorem routes_eq (h : ∀ id ∈ start :: rest, d.hasNode id) : d.routes (start :: rest) =
    (List.zipWith (fun a b => (d.targets a).count b) (start :: rest) rest).prod :=
  prod_zipWith_congr fun a ha b hb => (count_targets (h a ha) (h b hb)).symm

/-! ## Ends -/

theorem mem_terminals_iff : a ∈ d.terminals start ↔
    d.hasNode a ∧ a ≠ start ∧ ∀ e ∈ d.edges, a = e.source → ¬ d.hasNode e.target := by
  have hempty : (d.targets a).isEmpty ↔ ∀ b, ¬ d.Joins a b := by
    simp only [List.isEmpty_iff, List.eq_nil_iff_forall_not_mem, mem_targets_iff]
  rw [terminals, List.mem_filter, mem_ids_iff, Bool.and_eq_true, hempty, bne_iff_ne]
  simp only [Joins]
  grind

def endsIn (ends p : List String) : Bool := p.getLast?.any ends.contains

theorem endsIn_iff {ends : List String} : endsIn ends p ↔ ∃ last ∈ p.getLast?, last ∈ ends := by
  unfold endsIn
  cases p.getLast? <;> simp

theorem terminalPaths_eq (hs : d.hasNode start) : d.terminalPaths start depth =
    (simplePaths d.parallelSuccessors depth.toNat [] start).filter
      (endsIn (d.terminals start)) := by
  unfold terminalPaths
  cases ht : d.terminals start with
  | nil =>
    rw [List.filter_eq_nil_iff.mpr fun p _ => by simp [endsIn_iff]]
    simp
  | cons t ts =>
    rw [if_neg (by simp [hs])]
    rfl

theorem terminalPaths_eq_nil (hs : ¬ d.hasNode start) : d.terminalPaths start depth = [] := by
  simp [terminalPaths, hs]

theorem IsTerminalPath.endsIn_terminals (h : d.IsTerminalPath start depth p) :
    endsIn (d.terminals start) p := by
  obtain ⟨rest, rfl⟩ := List.head?_eq_some_iff.mp h.starts
  have hne : rest ≠ [] := by
    rintro rfl
    simpa using h.moves
  have hlast : (start :: rest).getLast? = some (rest.getLast hne) := by
    rw [List.getLast?_eq_some_getLast (List.cons_ne_nil start rest), List.getLast_cons hne]
  refine endsIn_iff.mpr ⟨rest.getLast hne, hlast, mem_terminals_iff.mpr ⟨?_, ?_, ?_⟩⟩
  · exact h.exist _ (List.mem_cons_of_mem start (List.getLast_mem hne))
  · intro he
    exact (List.nodup_cons.mp h.nodup).1 (he ▸ List.getLast_mem hne)
  · intro e he hs
    exact h.ends e he (hlast.trans (congrArg some hs))

/-- The start is no terminal node, so that a sequence to one has a step. -/
theorem length_pos_of_endsIn (h : endsIn (d.terminals start) (start :: rest)) :
    0 < rest.length := by
  obtain ⟨last, hlast, hterm⟩ := endsIn_iff.mp h
  refine List.length_pos_iff.mpr ?_
  rintro rfl
  exact (mem_terminals_iff.mp hterm).2.1 (Option.some_inj.mp hlast).symm

theorem isTerminalPath_cons_iff : d.IsTerminalPath start depth (start :: rest) ↔
    (rest.length : ℤ) ≤ depth ∧ (start :: rest).Nodup ∧ (∀ id ∈ start :: rest, d.hasNode id) ∧
      endsIn (d.terminals start) (start :: rest) := by
  constructor
  · intro h
    have hlen := h.within
    simp only [List.length_cons] at hlen
    exact ⟨by omega, h.nodup, h.exist, h.endsIn_terminals⟩
  · rintro ⟨hlen, hn, hexist, hends⟩
    obtain ⟨last, hlast, hterm⟩ := endsIn_iff.mp hends
    refine ⟨rfl, Nat.succ_le_succ (length_pos_of_endsIn hends), ?_, hn, hexist, fun e he hl => ?_⟩
    · simp only [List.length_cons]
      omega
    · have hdead := (mem_terminals_iff.mp hterm).2.2
      exact hdead e he (Option.some_inj.mp (hlast.symm.trans hl))

theorem mem_terminalPaths_iff : p ∈ d.terminalPaths start depth ↔ d.hasNode start ∧
    p ∈ simplePaths d.parallelSuccessors depth.toNat [] start ∧
      endsIn (d.terminals start) p := by
  by_cases hs : d.hasNode start
  · rw [terminalPaths_eq hs, List.mem_filter, and_iff_right hs]
  · simp [terminalPaths_eq_nil hs, hs]

theorem isTerminalPath_of_mem (h : p ∈ d.terminalPaths start depth) :
    d.IsTerminalPath start depth p := by
  obtain ⟨hs, hp, hends⟩ := mem_terminalPaths_iff.mp h
  obtain ⟨rest, rfl⟩ := List.head?_eq_some_iff.mp (head?_of_mem_simplePaths hp)
  obtain ⟨⟨hlen, hn, hroot⟩, hc⟩ := cons_mem_simplePaths_iff.mp hp
  have hpos := length_pos_of_endsIn hends
  refine isTerminalPath_cons_iff.mpr ⟨by omega, ?_, ?_, hends⟩
  · exact List.nodup_cons.mpr ⟨fun hm => hroot start hm List.mem_cons_self, hn⟩
  · refine List.forall_mem_cons.mpr ⟨hs, forall_mem_of_isChain_cons hc fun a b hab => ?_⟩
    exact mem_ids_iff.mp (mem_parallelSuccessors_iff.mp hab).target_mem

theorem isChain_of_mem_terminalPaths (h : p ∈ d.terminalPaths start depth) :
    p.IsChain d.Joins := by
  obtain ⟨-, hp, -⟩ := mem_terminalPaths_iff.mp h
  obtain ⟨rest, rfl⟩ := List.head?_eq_some_iff.mp (head?_of_mem_simplePaths hp)
  obtain ⟨-, hc⟩ := cons_mem_simplePaths_iff.mp hp
  exact hc.imp fun _ _ hab => mem_parallelSuccessors_iff.mp hab

/-- A terminal path occurs as often as there are ways to follow it, and nothing else occurs. -/
theorem count_terminalPaths : (d.terminalPaths start depth).count p =
    if d.IsTerminalPath start depth p then d.routes p else 0 := by
  split
  case isFalse h => exact List.count_eq_zero_of_not_mem fun hm => h (isTerminalPath_of_mem hm)
  case isTrue h =>
    obtain ⟨rest, rfl⟩ := List.head?_eq_some_iff.mp h.starts
    obtain ⟨hlen, hn, hexist, hends⟩ := isTerminalPath_cons_iff.mp h
    obtain ⟨hroot, hn⟩ := List.nodup_cons.mp hn
    have hfresh : ∀ w ∈ rest, w ∉ [start] := by
      intro w hw hm
      exact hroot (List.mem_singleton.mp hm ▸ hw)
    rw [terminalPaths_eq (hexist start List.mem_cons_self), List.count_filter hends,
      count_simplePaths, if_pos ⟨by omega, hn, hfresh⟩, routes_eq hexist]
    simp only [count_parallelSuccessors]

end DesignRules.Diagram
