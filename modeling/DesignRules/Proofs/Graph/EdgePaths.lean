import DesignRules.Proofs.Graph.TerminalPaths
import Mathlib.Data.List.Sigma

/-! # Paths edge by edge

Parallel edges give different paths through the same nodes. However the edge paths to the
terminal nodes are enumerated, their nodes are the terminal paths with the same
multiplicities.
-/

namespace DesignRules.Diagram

variable (d : Diagram)

/-- The inner edges with numbers, which tell parallel edges apart. -/
def numbered : List (Connection × ℕ) := d.innerEdges.zipIdx

/-- Inner edges that lead on from a node, each from the end of the one before. -/
def IsWalk : String → List (Connection × ℕ) → Prop
  | _, [] => True
  | a, x :: w => x ∈ d.numbered ∧ x.1.source = a ∧ IsWalk x.1.target w

def visited (start : String) (w : List (Connection × ℕ)) : List String :=
  start :: w.map (·.1.target)

/-- A walk through distinct nodes with at most `depth` edges to one of the targets. -/
structure IsEdgePath (targets : List String) (start : String) (depth : ℤ)
    (w : List (Connection × ℕ)) : Prop where
  walk : d.IsWalk start w
  nodup : (visited start w).Nodup
  within : (w.length : ℤ) ≤ depth
  ends : endsIn targets (visited start w)

/-- The edge paths to the terminal nodes, each once, in any order. -/
structure EnumeratesPaths (start : String) (depth : ℤ)
    (walks : List (List (Connection × ℕ))) : Prop where
  mem_iff : ∀ w, w ∈ walks ↔ d.IsEdgePath (d.terminals start) start depth w
  nodup : walks.Nodup

/-- The nodes of each walk, unless the start or every terminal node is missing. -/
def listed (start : String) (walks : List (List (Connection × ℕ))) : List (List String) :=
  if !d.hasNode start || (d.terminals start).isEmpty then [] else walks.map (visited start)

/-- All ways to follow a sequence of nodes edge by edge. -/
def choices : List String → List (List (Connection × ℕ))
  | a :: b :: rest =>
    (d.numbered.filter fun x => x.1.source == a && x.1.target == b).flatMap fun x =>
      (choices (b :: rest)).map (x :: ·)
  | _ => [[]]

variable {d} {a start : String} {depth : ℤ} {p rest : List String} {w : List (Connection × ℕ)}
  {walks : List (List (Connection × ℕ))}

/-! ## Ways to follow a sequence of nodes -/

theorem mem_choices_iff :
    w ∈ d.choices (a :: rest) ↔ d.IsWalk a w ∧ visited a w = a :: rest := by
  induction rest generalizing a w with
  | nil => cases w <;> simp [choices, IsWalk, visited]
  | cons b rest ih =>
    cases w with
    | nil => simp [choices, visited]
    | cons x w =>
      simp only [choices, List.mem_flatMap, List.mem_filter, List.mem_map, Bool.and_eq_true,
        beq_iff_eq, List.cons.injEq, ih, IsWalk, visited, List.map_cons, true_and]
      constructor
      · rintro ⟨x, ⟨hx, rfl, rfl⟩, w, ⟨hw, hv⟩, rfl, rfl⟩
        exact ⟨⟨hx, rfl, hw⟩, rfl, hv⟩
      · rintro ⟨⟨hx, rfl, hw⟩, rfl, hv⟩
        exact ⟨x, ⟨hx, rfl, rfl⟩, w, ⟨hw, hv⟩, rfl, rfl⟩

theorem nodup_numbered : d.numbered.Nodup :=
  .of_map Prod.snd (List.nodup_zipIdx_map_snd d.innerEdges)

theorem nodup_choices (p : List String) : (d.choices p).Nodup := by
  fun_induction choices d p with
  | case1 a b rest ih =>
    refine List.nodup_flatMap.mpr ⟨fun x _ => ih.map (List.cons_injective), ?_⟩
    refine (nodup_numbered.filter _).imp fun {x y} hxy => ?_
    refine List.disjoint_left.mpr fun w hx hy => ?_
    obtain ⟨_, _, rfl⟩ := List.mem_map.mp hx
    obtain ⟨_, _, hy⟩ := List.mem_map.mp hy
    exact hxy (List.cons.inj hy).1.symm
  | case2 => exact List.nodup_singleton []

theorem length_filter_numbered (a b : String) :
    (d.numbered.filter fun x => x.1.source == a && x.1.target == b).length =
      (d.targets a).count b := by
  have hfst : d.numbered.map Prod.fst = d.innerEdges := List.zipIdx_map_fst 0 _
  rw [targets, ← hfst, List.count, List.countP_map, List.filter_map, List.countP_map,
    List.countP_filter, List.countP_eq_length_filter]
  refine congrArg List.length (List.filter_congr fun x _ => ?_)
  simp [Bool.and_comm]

theorem length_choices (p : List String) : (d.choices p).length =
    (List.zipWith (fun a b => (d.targets a).count b) p p.tail).prod := by
  fun_induction choices d p with
  | case1 a b rest ih =>
    rw [List.length_flatMap]
    simp only [List.length_map, List.map_const', List.sum_replicate_nat, ih,
      length_filter_numbered]
    rfl
  | case2 p hp =>
    match p, hp with
    | [], _ | [_], _ => rfl
    | a :: b :: rest, hp => exact absurd rfl (hp a b rest)

/-! ## Edge paths -/

theorem hasNode_of_mem_numbered {x : Connection × ℕ} (h : x ∈ d.numbered) :
    d.hasNode x.1.source ∧ d.hasNode x.1.target := by
  have hinner := (List.mem_filter.mp (List.fst_mem_of_mem_zipIdx h)).2
  exact Bool.and_eq_true_iff.mp hinner

theorem IsWalk.hasNode (h : d.IsWalk a w) (hw : w ≠ []) : ∀ id ∈ visited a w, d.hasNode id := by
  induction w generalizing a with
  | nil => exact absurd rfl hw
  | cons x w ih =>
    obtain ⟨hx, rfl, htail⟩ := h
    obtain ⟨hs, ht⟩ := hasNode_of_mem_numbered hx
    refine List.forall_mem_cons.mpr ⟨hs, ?_⟩
    cases w with
    | nil => simpa using ht
    | cons y w => exact ih htail (List.cons_ne_nil y w)

theorem isEdgePath_iff : d.IsEdgePath (d.terminals start) start depth w ↔
    d.IsWalk start w ∧ d.IsTerminalPath start depth (visited start w) := by
  rw [visited, isTerminalPath_cons_iff, List.length_map]
  constructor
  · rintro ⟨hwalk, hn, hlen, hends⟩
    have hw : w ≠ [] := by simpa using List.length_pos_iff.mp (length_pos_of_endsIn hends)
    exact ⟨hwalk, hlen, hn, hwalk.hasNode hw, hends⟩
  · rintro ⟨hwalk, hlen, hn, -, hends⟩
    exact ⟨hwalk, hn, hlen, hends⟩

namespace EnumeratesPaths

variable (h : d.EnumeratesPaths start depth walks)

include h

theorem isTerminalPath_of_mem (hw : w ∈ walks) : d.IsTerminalPath start depth (visited start w) :=
  (isEdgePath_iff.mp ((h.mem_iff w).mp hw)).2

theorem listed_eq : d.listed start walks = walks.map (visited start) := by
  unfold listed
  split
  case isFalse => rfl
  case isTrue hnone =>
    suffices hwalks : walks = [] by rw [hwalks, List.map_nil]
    refine List.eq_nil_iff_forall_not_mem.mpr fun w hw => ?_
    obtain ⟨-, -, hexist, hends⟩ := isTerminalPath_cons_iff.mp (h.isTerminalPath_of_mem hw)
    obtain ⟨last, -, hlast⟩ := endsIn_iff.mp hends
    rw [hexist start List.mem_cons_self, Bool.not_true, Bool.false_or, List.isEmpty_iff] at hnone
    rw [hnone] at hlast
    simp at hlast

theorem filter_perm_choices (hp : d.IsTerminalPath start depth (start :: rest)) :
    (walks.filter (visited start · == start :: rest)).Perm (d.choices (start :: rest)) := by
  refine (List.perm_ext_iff_of_nodup (h.nodup.filter _) (nodup_choices _)).mpr fun w => ?_
  rw [List.mem_filter, h.mem_iff, isEdgePath_iff, mem_choices_iff, beq_iff_eq]
  constructor
  · rintro ⟨⟨hwalk, _⟩, hv⟩
    exact ⟨hwalk, hv⟩
  · rintro ⟨hwalk, hv⟩
    exact ⟨⟨hwalk, hv ▸ hp⟩, hv⟩

/-- However the edge paths are enumerated, their nodes are the terminal paths. -/
theorem listed_perm : (d.listed start walks).Perm (d.terminalPaths start depth) := by
  refine List.perm_iff_count.mpr fun p => ?_
  rw [h.listed_eq, count_terminalPaths]
  split
  case isFalse hp =>
    refine List.count_eq_zero_of_not_mem fun hm => hp ?_
    obtain ⟨w, hw, rfl⟩ := List.mem_map.mp hm
    exact h.isTerminalPath_of_mem hw
  case isTrue hp =>
    obtain ⟨rest, rfl⟩ := List.head?_eq_some_iff.mp hp.starts
    rw [List.count, List.countP_map, List.countP_eq_length_filter, routes_eq hp.exist]
    exact (h.filter_perm_choices hp).length_eq.trans (length_choices _)

end EnumeratesPaths

theorem mem_terminalPaths_of_mem_choices (hp : d.IsTerminalPath start depth p)
    (hw : w ∈ d.choices p) : p ∈ d.terminalPaths start depth := by
  obtain ⟨rest, rfl⟩ := List.head?_eq_some_iff.mp hp.starts
  rw [← List.count_pos_iff, count_terminalPaths, if_pos hp, routes_eq hp.exist]
  exact (length_choices (d := d) (start :: rest)) ▸ List.length_pos_of_mem hw

/-- Following each terminal path in all ways enumerates the edge paths. -/
theorem enumeratesPaths_choices (start : String) (depth : ℤ) :
    d.EnumeratesPaths start depth ((d.terminalPaths start depth).eraseDups.flatMap d.choices) := by
  have hvisited : ∀ p ∈ d.terminalPaths start depth, ∀ w ∈ d.choices p,
      d.IsWalk start w ∧ visited start w = p := by
    intro p hp w hw
    obtain ⟨rest, rfl⟩ := List.head?_eq_some_iff.mp (isTerminalPath_of_mem hp).starts
    exact mem_choices_iff.mp hw
  constructor
  · intro w
    rw [isEdgePath_iff, List.mem_flatMap]
    constructor
    · rintro ⟨p, hp, hw⟩
      have hp := List.mem_eraseDups.mp hp
      obtain ⟨hwalk, rfl⟩ := hvisited p hp w hw
      exact ⟨hwalk, isTerminalPath_of_mem hp⟩
    · rintro ⟨hwalk, hp⟩
      have hw : w ∈ d.choices (visited start w) := mem_choices_iff.mpr ⟨hwalk, rfl⟩
      exact ⟨_, List.mem_eraseDups.mpr (mem_terminalPaths_of_mem_choices hp hw), hw⟩
  · refine List.nodup_flatMap.mpr ⟨fun p _ => nodup_choices p, ?_⟩
    refine (nodup_eraseDups _).imp_of_mem fun {p q} hp hq hpq => ?_
    refine List.disjoint_left.mpr fun w hwp hwq => ?_
    have hvp := (hvisited p (List.mem_eraseDups.mp hp) w hwp).2
    have hvq := (hvisited q (List.mem_eraseDups.mp hq) w hwq).2
    exact hpq (hvp.symm.trans hvq)

end DesignRules.Diagram
