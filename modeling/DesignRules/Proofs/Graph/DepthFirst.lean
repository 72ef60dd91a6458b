import DesignRules.Proofs.Graph.EdgePaths

/-! # The order of a depth-first search

Edge paths that come in the order of a depth-first search give the terminal paths one by one, in
the order in which they are listed. A bound on the depth cuts off the long paths and changes
nothing else.
-/

namespace DesignRules

/-- A smaller bound keeps the paths that lie within it, in their order. -/
theorem filter_length_simplePaths {α : Type} [DecidableEq α] {next : α → List α} {m n : ℕ}
    (h : n ≤ m) (seen : List α) (v : α) :
    (simplePaths next m seen v).filter (fun p => decide (p.length ≤ n + 1)) =
      simplePaths next n seen v := by
  induction n generalizing m seen v with
  | zero =>
    cases m with
    | zero => rfl
    | succ m =>
      change List.filter _ ([v] :: List.flatMap _ _) = [[v]]
      rw [List.filter_cons_of_pos (by simp), List.filter_eq_nil_iff.mpr]
      intro p hp
      obtain ⟨w, -, hp⟩ := List.mem_flatMap.mp hp
      obtain ⟨q, hq, rfl⟩ := List.mem_map.mp hp
      obtain ⟨rest, rfl⟩ := List.head?_eq_some_iff.mp (head?_of_mem_simplePaths hq)
      simp
  | succ n ih =>
    obtain ⟨m, rfl⟩ := Nat.exists_eq_add_of_le' (Nat.lt_of_lt_of_le (Nat.succ_pos n) h)
    rw [simplePaths, simplePaths, List.filter_cons_of_pos (by simp), List.filter_flatMap]
    congr 2
    funext w
    rw [List.filter_map, ← ih (Nat.le_of_succ_le_succ h)]
    refine congrArg _ (List.filter_congr fun p _ => ?_)
    simp

namespace Diagram

variable (d : Diagram)

/-- The inner edges that start at a node, by their targets, in the order of the first edge to
each target. -/
def departures (id : String) : List (Connection × ℕ) :=
  (d.successors id).flatMap fun target =>
    d.numbered.filter fun x => x.1.source == id && x.1.target == target

/-- The place of an edge among those that start at the same node. -/
def turn (x : Connection × ℕ) : ℕ := (d.departures x.1.source).idxOf x

/-- The walks come in the order of a depth-first search: of two that part, the one with the
earlier turn comes first, and what goes on from the end of a walk comes after it. -/
def IsDepthFirst (walks : List (List (Connection × ℕ))) : Prop :=
  walks.Pairwise fun w w' => w.map d.turn < w'.map d.turn

/-- A depth-first search edge by edge. -/
def edgePaths : ℕ → List String → String → List (List (Connection × ℕ))
  | 0, _, _ => [[]]
  | depth + 1, seen, a =>
    [] :: ((d.departures a).filter fun x => !(a :: seen).contains x.1.target).flatMap fun x =>
      (edgePaths depth (a :: seen) x.1.target).map (x :: ·)

variable {d} {a start : String} {depth depth' : ℤ} {seen : List String} {w : List (Connection × ℕ)}
  {walks : List (List (Connection × ℕ))} {x : Connection × ℕ} {n : ℕ}

/-! ## Departures -/

theorem mem_departures_iff : x ∈ d.departures a ↔ x ∈ d.numbered ∧ x.1.source = a := by
  simp only [departures, successors, List.mem_flatMap, List.mem_filter, List.mem_eraseDups,
    Bool.and_eq_true, beq_iff_eq]
  constructor
  · rintro ⟨target, -, hx, hs, -⟩
    exact ⟨hx, hs⟩
  · rintro ⟨hx, rfl⟩
    have hinner : x.1 ∈ d.innerEdges := List.fst_mem_of_mem_zipIdx hx
    exact ⟨x.1.target, List.mem_map_of_mem (List.mem_filter.mpr ⟨hinner, beq_self_eq_true _⟩),
      hx, rfl, rfl⟩

theorem nodup_departures (a : String) : (d.departures a).Nodup := by
  refine List.nodup_flatMap.mpr ⟨fun target _ => nodup_numbered.filter _, ?_⟩
  refine (nodup_eraseDups _).imp fun {b c} hbc => List.disjoint_left.mpr fun x hb hc => hbc ?_
  simp only [List.mem_filter, Bool.and_eq_true, beq_iff_eq] at hb hc
  exact hb.2.2.symm.trans hc.2.2

theorem pairwise_turn_departures (a : String) :
    (d.departures a).Pairwise fun x y => d.turn x < d.turn y := by
  have hplaces := pairwise_idxOf_eraseDups (d.departures a)
  rw [eraseDups_of_nodup (nodup_departures a)] at hplaces
  refine hplaces.imp_of_mem fun {x y} hx hy hlt => ?_
  rw [turn, turn, (mem_departures_iff.mp hx).2, (mem_departures_iff.mp hy).2]
  exact hlt

theorem map_target_departures (a : String) :
    (d.departures a).map (·.1.target) = d.parallelSuccessors a := by
  rw [departures, List.map_flatMap, parallelSuccessors, successors]
  refine List.flatMap_congr fun target _ => ?_
  have hfst : d.numbered.map Prod.fst = d.innerEdges := List.zipIdx_map_fst 0 _
  rw [targets, ← hfst, List.filter_map, List.filter_map, List.filter_map, List.filter_filter,
    List.map_map]
  refine congrArg _ (List.filter_congr fun x _ => ?_)
  exact Bool.and_comm _ _

/-! ## Searching edge by edge -/

theorem map_visited_edgePaths (n : ℕ) (seen : List String) (a : String) :
    (d.edgePaths n seen a).map (visited a) = simplePaths d.parallelSuccessors n seen a := by
  induction n generalizing seen a with
  | zero => rfl
  | succ n ih =>
    rw [edgePaths, simplePaths, List.map_cons, List.map_flatMap, ← map_target_departures,
      List.filter_map, List.flatMap_map]
    refine congrArg _ (List.flatMap_congr fun x _ => ?_)
    rw [List.map_map, ← ih, List.map_map]
    rfl

theorem cons_mem_edgePaths_iff : x :: w ∈ d.edgePaths (n + 1) seen a ↔
    (x ∈ d.numbered ∧ x.1.source = a) ∧ x.1.target ∉ a :: seen ∧
      w ∈ d.edgePaths n (a :: seen) x.1.target := by
  rw [← mem_departures_iff, edgePaths, List.mem_cons, or_iff_right (List.cons_ne_nil x w),
    List.mem_flatMap]
  simp only [List.mem_filter, List.mem_map, List.cons.injEq, Bool.not_eq_true',
    List.contains_eq_mem, decide_eq_false_iff_not]
  constructor
  · rintro ⟨x, ⟨hx, hfresh⟩, w, hw, rfl, rfl⟩
    exact ⟨hx, hfresh, hw⟩
  · rintro ⟨hx, hfresh, hw⟩
    exact ⟨x, ⟨hx, hfresh⟩, w, hw, rfl, rfl⟩

theorem mem_edgePaths_iff : w ∈ d.edgePaths n seen a ↔
    d.IsWalk a w ∧ w.length ≤ n ∧ (visited a w).Nodup ∧ ∀ id ∈ w.map (·.1.target), id ∉ seen := by
  induction w generalizing n seen a with
  | nil => cases n <;> simp [edgePaths, IsWalk, visited]
  | cons x w ih =>
    cases n with
    | zero => simp [edgePaths]
    | succ n =>
      simp only [cons_mem_edgePaths_iff, ih, IsWalk, visited, List.map_cons, List.length_cons,
        List.nodup_cons, List.mem_cons, Nat.succ_le_succ_iff]
      grind

/-- The search offers the walks in the order of their turns. -/
theorem isDepthFirst_edgePaths (n : ℕ) (seen : List String) (a : String) :
    d.IsDepthFirst (d.edgePaths n seen a) := by
  induction n generalizing seen a with
  | zero => exact List.pairwise_singleton _ _
  | succ n ih =>
    rw [edgePaths, IsDepthFirst, List.pairwise_cons, List.pairwise_flatMap]
    refine ⟨fun w hw => ?_, fun x _ => ?_, ?_⟩
    · obtain ⟨x, -, hw⟩ := List.mem_flatMap.mp hw
      obtain ⟨w, -, rfl⟩ := List.mem_map.mp hw
      exact List.nil_lt_cons _ _
    · refine List.pairwise_map.mpr ((ih _ _).imp fun {w w'} hlt => ?_)
      exact List.cons_lt_cons_self.mpr hlt
    · refine ((pairwise_turn_departures a).filter _).imp fun {x y} hlt => ?_
      intro w hw w' hw'
      obtain ⟨w, -, rfl⟩ := List.mem_map.mp hw
      obtain ⟨w', -, rfl⟩ := List.mem_map.mp hw'
      exact List.cons_lt_cons_iff.mpr (.inl hlt)

/-! ## Any depth-first enumeration -/

/-- The edge paths to the terminal nodes, as the search finds them. -/
def edgePathsToTerminals (d : Diagram) (start : String) (depth : ℤ) :
    List (List (Connection × ℕ)) :=
  (d.edgePaths depth.toNat [] start).filter fun w => endsIn (d.terminals start) (visited start w)

theorem isDepthFirst_edgePathsToTerminals (start : String) (depth : ℤ) :
    d.IsDepthFirst (d.edgePathsToTerminals start depth) :=
  (isDepthFirst_edgePaths _ _ _).filter _

theorem IsDepthFirst.nodup (h : d.IsDepthFirst walks) : walks.Nodup :=
  List.Pairwise.imp (fun hlt he => absurd (he ▸ hlt) (lt_irrefl _)) h

theorem enumeratesPaths_edgePathsToTerminals (start : String) (depth : ℤ) :
    d.EnumeratesPaths start depth (d.edgePathsToTerminals start depth) := by
  refine ⟨fun w => ?_, (isDepthFirst_edgePathsToTerminals start depth).nodup⟩
  rw [edgePathsToTerminals, List.mem_filter, mem_edgePaths_iff]
  constructor
  · rintro ⟨⟨hwalk, hlen, hn, -⟩, hends⟩
    -- a walk to a terminal node has a step, so that a negative bound admits none
    have hpos : 0 < (w.map (·.1.target)).length := length_pos_of_endsIn hends
    rw [List.length_map] at hpos
    exact ⟨hwalk, hn, by omega, hends⟩
  · rintro ⟨hwalk, hn, hlen, hends⟩
    exact ⟨⟨hwalk, by omega, hn, by simp⟩, hends⟩

/-- Enumerated depth-first, the edge paths come as the search finds them. -/
theorem EnumeratesPaths.eq_edgePathsToTerminals (h : d.EnumeratesPaths start depth walks)
    (horder : d.IsDepthFirst walks) : walks = d.edgePathsToTerminals start depth := by
  have hown := enumeratesPaths_edgePathsToTerminals (d := d) start depth
  have hperm : walks.Perm (d.edgePathsToTerminals start depth) :=
    (List.perm_ext_iff_of_nodup h.nodup hown.nodup).mpr fun w => by rw [h.mem_iff, hown.mem_iff]
  refine hperm.eq_of_pairwise ?_ horder (isDepthFirst_edgePathsToTerminals start depth)
  exact fun w w' _ _ hlt hgt => absurd hgt (lt_asymm hlt)

theorem map_visited_edgePathsToTerminals (hs : d.hasNode start) :
    (d.edgePathsToTerminals start depth).map (visited start) = d.terminalPaths start depth := by
  rw [terminalPaths_eq hs, ← map_visited_edgePaths, List.filter_map]
  rfl

/-- The nodes of edge paths that are enumerated depth-first are the terminal paths, in their
order. -/
theorem EnumeratesPaths.listed_eq_terminalPaths (h : d.EnumeratesPaths start depth walks)
    (horder : d.IsDepthFirst walks) : d.listed start walks = d.terminalPaths start depth := by
  by_cases hs : d.hasNode start
  case neg => rw [terminalPaths_eq_nil hs, listed, if_pos (by simp [hs])]
  rw [h.listed_eq, h.eq_edgePathsToTerminals horder, map_visited_edgePathsToTerminals hs]

/-- A smaller depth keeps the terminal paths that lie within it, in their order. -/
theorem filter_length_terminalPaths (h : depth ≤ depth') (start : String) :
    (d.terminalPaths start depth').filter (fun p => decide ((p.length : ℤ) ≤ depth + 1)) =
      d.terminalPaths start depth := by
  by_cases hs : d.hasNode start
  case neg => rw [terminalPaths_eq_nil hs, terminalPaths_eq_nil hs, List.filter_nil]
  rw [terminalPaths_eq hs, terminalPaths_eq hs,
    ← filter_length_simplePaths (Int.toNat_le_toNat h), List.filter_filter, List.filter_filter]
  refine List.filter_congr fun p hp => ?_
  obtain ⟨rest, rfl⟩ := List.head?_eq_some_iff.mp (head?_of_mem_simplePaths hp)
  by_cases hends : endsIn (d.terminals start) (start :: rest)
  · have hpos := length_pos_of_endsIn hends
    simp only [hends, Bool.and_true, Bool.true_and, List.length_cons, decide_eq_decide]
    omega
  · simp [hends]

end Diagram

end DesignRules
