import DesignRules.Proofs.Graph.Agreement
import Mathlib.Data.List.Perm.Lattice

/-! # Diagrams side by side

Two diagrams without a common identifier put side by side. Each of them is a part of the
whole: its components and the edges that touch them are as they were. The circuits of the
whole are those of the one followed by those of the other.
-/

namespace DesignRules

namespace Diagram

/-- The nodes and edges of two diagrams together. -/
instance : Append Diagram := ⟨fun d₁ d₂ => ⟨d₁.nodes ++ d₂.nodes, d₁.edges ++ d₂.edges⟩⟩

/-- The identifiers of the nodes and those at the ends of the edges. -/
def names (d : Diagram) : List String :=
  d.nodes.map (·.id) ++ d.edges.flatMap fun e => [e.source, e.target]

/-- No identifier is used in both diagrams. -/
def Apart (d₁ d₂ : Diagram) : Prop := ∀ id ∈ d₁.names, id ∉ d₂.names

instance (d₁ d₂ : Diagram) : Decidable (d₁.Apart d₂) :=
  inferInstanceAs (Decidable (∀ id ∈ d₁.names, id ∉ d₂.names))

/-- A diagram whose components are in the other one with all the edges that touch them, in
the same order. -/
structure IsPart (part d : Diagram) : Prop where
  node? : ∀ id ∈ part.names, part.node? id = d.node? id
  touching : ∀ id ∈ part.names, part.edges.filter (touches id) = d.edges.filter (touches id)
  position : ∃ k, ∀ id ∈ part.ids, d.position id = part.position id + k

variable {part d d₁ d₂ : Diagram} {id a b : String} {e : Connection} {c : List String}

theorem nodes_append : (d₁ ++ d₂).nodes = d₁.nodes ++ d₂.nodes := rfl

theorem edges_append : (d₁ ++ d₂).edges = d₁.edges ++ d₂.edges := rfl

theorem mem_names_of_mem_nodes {n : Node} (h : n ∈ d.nodes) : n.id ∈ d.names :=
  List.mem_append_left _ (List.mem_map_of_mem h)

theorem mem_names_of_hasNode (h : d.hasNode id) : id ∈ d.names :=
  List.mem_append_left _ (hasNode_iff.mp h)

theorem mem_names_of_mem_ids (h : id ∈ d.ids) : id ∈ d.names :=
  mem_names_of_hasNode (mem_ids_iff.mp h)

theorem source_mem_names (h : e ∈ d.edges) : e.source ∈ d.names :=
  List.mem_append_right _ (List.mem_flatMap.mpr ⟨e, h, List.mem_cons_self⟩)

theorem target_mem_names (h : e ∈ d.edges) : e.target ∈ d.names :=
  List.mem_append_right _ (List.mem_flatMap.mpr ⟨e, h, by simp⟩)

theorem node?_eq_none_of_not_mem_names (h : id ∉ d.names) : d.node? id = none := by
  rw [← Option.not_isSome_iff_eq_none, ← hasNode_eq_isSome]
  exact fun hid => h (mem_names_of_hasNode hid)

theorem filter_touches_eq_nil (h : id ∉ d.names) : d.edges.filter (touches id) = [] := by
  refine List.filter_eq_nil_iff.mpr fun e he ht => h ?_
  rcases touches_iff.mp ht with rfl | rfl
  · exact source_mem_names he
  · exact target_mem_names he

theorem node?_append (id : String) :
    (d₁ ++ d₂).node? id = (d₁.node? id).or (d₂.node? id) :=
  List.find?_append

theorem IsCircuit.head_mem_ids {l : List String} (h : d.IsCircuit (a :: l)) : a ∈ d.ids :=
  h.subset_ids List.mem_cons_self

theorem ids_append (h : d₁.Apart d₂) : (d₁ ++ d₂).ids = d₁.ids ++ d₂.ids := by
  rw [ids, nodes_append, List.map_append, eraseDups_append_of_disjoint, ids, ids]
  exact fun id h₂ h₁ => h id (List.mem_append_left _ h₁) (List.mem_append_left _ h₂)

theorem isPart_left (h : d₁.Apart d₂) : d₁.IsPart (d₁ ++ d₂) where
  node? := fun id hid => by
    rw [node?_append, node?_eq_none_of_not_mem_names (h id hid), Option.or_none]
  touching := fun id hid => by
    rw [edges_append, List.filter_append, filter_touches_eq_nil (h id hid), List.append_nil]
  position := ⟨0, fun id hid => by
    rw [position_eq_idxOf, position_eq_idxOf, nodes_append, List.map_append,
      List.idxOf_append_of_mem (hasNode_iff.mp (mem_ids_iff.mp hid)), Nat.add_zero]⟩

theorem isPart_right (h : d₁.Apart d₂) : d₂.IsPart (d₁ ++ d₂) := by
  have h' : ∀ id ∈ d₂.names, id ∉ d₁.names := fun id h₂ h₁ => h id h₁ h₂
  refine ⟨fun id hid => ?_, fun id hid => ?_, d₁.nodes.length, fun id hid => ?_⟩
  · rw [node?_append, node?_eq_none_of_not_mem_names (h' id hid), Option.none_or]
  · rw [edges_append, List.filter_append, filter_touches_eq_nil (h' id hid), List.nil_append]
  · have hnot : id ∉ d₁.nodes.map (·.id) := fun hmem =>
      h' id (mem_names_of_mem_ids hid) (List.mem_append_left _ hmem)
    rw [position_eq_idxOf, position_eq_idxOf, nodes_append, List.map_append,
      List.idxOf_append_of_notMem hnot, List.length_map, Nat.add_comm]

/-! ## Parts -/

namespace IsPart

variable (h : part.IsPart d)

include h

theorem hasNode (hid : id ∈ part.names) : part.hasNode id = d.hasNode id := by
  rw [hasNode_eq_isSome, hasNode_eq_isSome, h.node? id hid]

theorem filter_eq (hid : id ∈ part.names) {p : Connection → Bool}
    (hp : ∀ e, p e → touches id e) : part.edges.filter p = d.edges.filter p := by
  have hfilter : ∀ edges : List Connection,
      edges.filter p = (edges.filter (touches id)).filter p := by
    intro edges
    rw [List.filter_filter]
    refine List.filter_congr fun e _ => ?_
    cases he : p e with
    | false => rfl
    | true => rw [hp e he, Bool.and_self]
  rw [hfilter, hfilter d.edges, h.touching id hid]

theorem filter_source (hid : id ∈ part.names) :
    part.edges.filter (·.source == id) = d.edges.filter (·.source == id) :=
  h.filter_eq hid fun _ he => touches_iff.mpr (.inl (beq_iff_eq.mp he))

theorem filter_target (hid : id ∈ part.names) :
    part.edges.filter (·.target == id) = d.edges.filter (·.target == id) :=
  h.filter_eq hid fun _ he => touches_iff.mpr (.inr (beq_iff_eq.mp he))

theorem targets (hid : id ∈ part.names) : part.targets id = d.targets id := by
  have hinner : ∀ e ∈ part.edges, part.isInner e = d.isInner e := fun e he => by
    rw [isInner, isInner, h.hasNode (source_mem_names he), h.hasNode (target_mem_names he)]
  rw [Diagram.targets, Diagram.targets, innerEdges, innerEdges, List.filter_comm,
    List.filter_comm _ d.isInner, ← h.filter_source hid]
  exact congrArg _ (List.filter_congr fun e he => hinner e (List.mem_of_mem_filter he))

theorem agreeOn : part.AgreeOn d {id | id ∈ part.names} where
  hasNode := fun _ hid => h.hasNode hid
  targets := fun _ hid => h.targets hid
  closed := fun _ _ _ htarget =>
    mem_names_of_mem_ids (mem_targets_iff.mp htarget).target_mem

theorem joins_iff (ha : a ∈ part.names) : part.Joins a b ↔ d.Joins a b := by
  rw [← mem_targets_iff, ← mem_targets_iff, h.targets ha]

theorem isChain_iff {l : List String} (ha : a ∈ part.names) :
    (a :: l).IsChain part.Joins ↔ (a :: l).IsChain d.Joins := by
  induction l generalizing a with
  | nil => simp
  | cons b l ih =>
    rw [List.isChain_cons_cons, List.isChain_cons_cons, h.joins_iff ha]
    refine and_congr_right fun hj => ih ?_
    exact mem_names_of_mem_ids ((h.joins_iff ha).mpr hj).target_mem

theorem isLoop_iff {l : List String} (ha : a ∈ part.names) :
    part.IsLoop (a :: l) ↔ d.IsLoop (a :: l) := by
  rw [isLoop_cons_iff, isLoop_cons_iff]
  exact and_congr_right fun _ => h.isChain_iff ha

theorem isCircuit_iff {l : List String} (ha : a ∈ part.names) :
    part.IsCircuit (a :: l) ↔ d.IsCircuit (a :: l) := by
  obtain ⟨k, hk⟩ := h.position
  have hearliest : part.IsLoop (a :: l) →
      ((∀ id ∈ a :: l, part.position a ≤ part.position id) ↔
        ∀ id ∈ a :: l, d.position a ≤ d.position id) := by
    intro hloop
    have hsub := hloop.subset_ids
    refine forall₂_congr fun id hid => ?_
    rw [hk a (hsub List.mem_cons_self), hk id (hsub hid), Nat.add_le_add_iff_right]
  constructor
  · rintro ⟨hloop, hfirst⟩
    refine ⟨(h.isLoop_iff ha).mp hloop, ?_⟩
    simpa using (hearliest hloop).mp (hfirst a rfl)
  · rintro ⟨hloop, hfirst⟩
    have hloop := (h.isLoop_iff ha).mpr hloop
    refine ⟨hloop, ?_⟩
    simpa using (hearliest hloop).mpr (hfirst a rfl)

theorem isCircuit (hc : part.IsCircuit c) : d.IsCircuit c := by
  obtain ⟨a, l, rfl⟩ := List.exists_cons_of_ne_nil hc.ne_nil
  exact (h.isCircuit_iff (mem_names_of_mem_ids hc.head_mem_ids)).mp hc

theorem positions_lt {p q : List String} (hp : p ⊆ part.ids) (hq : q ⊆ part.ids)
    (hlt : part.positions p < part.positions q) : d.positions p < d.positions q := by
  obtain ⟨k, hk⟩ := h.position
  have hshift : ∀ r ⊆ part.ids, d.positions r = (part.positions r).map (· + k) := by
    intro r hr
    rw [positions, positions, List.map_map]
    exact List.map_congr_left fun id hid => hk id (hr hid)
  rw [hshift p hp, hshift q hq]
  exact List.map_lt (fun _ _ hxy => Nat.add_lt_add_right hxy k) hlt

theorem pairwise_circuits : part.circuits.Pairwise fun p q => d.positions p < d.positions q :=
  Diagram.pairwise_circuits.imp_of_mem fun hp hq =>
    h.positions_lt (mem_circuits_iff.mp hp).subset_ids (mem_circuits_iff.mp hq).subset_ids

end IsPart

theorem isCircuit_append_iff (h : d₁.Apart d₂) :
    (d₁ ++ d₂).IsCircuit c ↔ d₁.IsCircuit c ∨ d₂.IsCircuit c := by
  constructor
  · intro hc
    obtain ⟨root, rest, rfl⟩ := List.exists_cons_of_ne_nil hc.ne_nil
    have hroot := hc.head_mem_ids
    rw [ids_append h, List.mem_append] at hroot
    rcases hroot with hroot | hroot
    · exact .inl (((isPart_left h).isCircuit_iff (mem_names_of_mem_ids hroot)).mpr hc)
    · exact .inr (((isPart_right h).isCircuit_iff (mem_names_of_mem_ids hroot)).mpr hc)
  · rintro (hc | hc)
    · exact (isPart_left h).isCircuit hc
    · exact (isPart_right h).isCircuit hc

/-- The circuits of the first diagram come first. -/
theorem circuits_append (h : d₁.Apart d₂) :
    (d₁ ++ d₂).circuits = d₁.circuits ++ d₂.circuits := by
  refine (eq_circuits (fun c => ?_) (List.pairwise_append.mpr
    ⟨(isPart_left h).pairwise_circuits, (isPart_right h).pairwise_circuits, ?_⟩)).symm
  · rw [List.mem_append, mem_circuits_iff, mem_circuits_iff, isCircuit_append_iff h]
  · intro p hp q hq
    rw [mem_circuits_iff] at hp hq
    obtain ⟨a, p, rfl⟩ := List.exists_cons_of_ne_nil hp.ne_nil
    obtain ⟨b, q, rfl⟩ := List.exists_cons_of_ne_nil hq.ne_nil
    have hids := (d₁ ++ d₂).pairwise_position_ids
    rw [ids_append h] at hids
    have hlt := (List.pairwise_append.mp hids).2.2 a hp.head_mem_ids b hq.head_mem_ids
    simp [positions, List.cons_lt_cons_iff, hlt]

end Diagram

end DesignRules
