import DesignRules.Proofs.Graph.Union
import Mathlib.Algebra.BigOperators.Group.Finset.Basic

/-! # Degrees, isolated nodes and successors

Every edge counts once at each of its ends, whether these exist or not, so that the degrees of
all names add up to the number of edges. Only edges between existing nodes make successors.
-/

namespace DesignRules.Diagram

/-- The position of the first edge from one node to another. -/
def firstEdge (d : Diagram) (a b : String) : ℕ :=
  d.edges.findIdx fun e => e.source == a && e.target == b

/-- The list holds the nodes at which no edge starts or ends. A name that is only an end of an edge
has a degree, so that these are also all names without one. -/
structure ListsIsolates (d : Diagram) (l : List String) : Prop where
  nodup : l.Nodup
  mem_iff : ∀ id, id ∈ l ↔ d.hasNode id ∧ ∀ e ∈ d.edges, e.source ≠ id ∧ e.target ≠ id
  mem_iff_degree : ∀ id, id ∈ l ↔ d.hasNode id ∧ d.outDegree id + d.inDegree id = 0
  mem_iff_mem_names : ∀ id, id ∈ l ↔ id ∈ d.names ∧ d.outDegree id + d.inDegree id = 0
  mem_iff_not_isConnected : ∀ id, id ∈ l ↔ d.hasNode id ∧ ¬ d.isConnected id

/-- The list holds the nodes to which an edge leads from a node, each once and in the order of
the first edges to them. -/
structure ListsSuccessors (d : Diagram) (a : String) (l : List String) : Prop where
  nodup : l.Nodup
  mem_iff : ∀ b, b ∈ l ↔
    d.hasNode a ∧ d.hasNode b ∧ ∃ e ∈ d.edges, e.source = a ∧ e.target = b
  ordered : l.Pairwise fun b c => d.firstEdge a b < d.firstEdge a c
  length_le : l.length ≤ d.outDegree a

variable {d : Diagram} {a b id : String} {e : Connection} {p : List String}

/-! ## Sums of degrees -/

theorem outDegree_eq_count (d : Diagram) (id : String) :
    d.outDegree id = (d.edges.map (·.source)).count id := by
  rw [List.count, List.countP_map, List.countP_eq_length_filter]
  rfl

theorem inDegree_eq_count (d : Diagram) (id : String) :
    d.inDegree id = (d.edges.map (·.target)).count id := by
  rw [List.count, List.countP_map, List.countP_eq_length_filter]
  rfl

/-- The members of a list are counted by counting each of the elements that may occur. -/
theorem sum_count_toFinset {l names : List String} (h : ∀ id ∈ l, id ∈ names) :
    ∑ id ∈ names.toFinset, l.count id = l.length := by
  have hsum := Multiset.sum_count_eq_card (s := names.toFinset) (m := (l : Multiset String))
    fun id hid => List.mem_toFinset.mpr (h id hid)
  simpa using hsum

theorem sum_outDegree (d : Diagram) : ∑ id ∈ d.names.toFinset, d.outDegree id = d.edges.length := by
  have hnames : ∀ id ∈ d.edges.map (·.source), id ∈ d.names := by
    rw [List.forall_mem_map]
    exact fun e he => source_mem_names he
  simp only [outDegree_eq_count]
  rw [sum_count_toFinset hnames, List.length_map]

theorem sum_inDegree (d : Diagram) : ∑ id ∈ d.names.toFinset, d.inDegree id = d.edges.length := by
  have hnames : ∀ id ∈ d.edges.map (·.target), id ∈ d.names := by
    rw [List.forall_mem_map]
    exact fun e he => target_mem_names he
  simp only [inDegree_eq_count]
  rw [sum_count_toFinset hnames, List.length_map]

/-! ## Isolated nodes -/

theorem not_isConnected_iff : ¬ d.isConnected id ↔ d.outDegree id + d.inDegree id = 0 := by
  rw [isConnected, Bool.or_eq_true, bne_iff_ne, bne_iff_ne]
  omega

theorem isConnected_iff : d.isConnected id ↔ ∃ e ∈ d.edges, touches id e := by
  rw [isConnected, Bool.or_eq_true, bne_iff_ne, bne_iff_ne, ← Nat.pos_iff_ne_zero,
    ← Nat.pos_iff_ne_zero, outDegree_eq_count, inDegree_eq_count, List.count_pos_iff,
    List.count_pos_iff, List.mem_map, List.mem_map, ← exists_or]
  simp only [touches_iff, and_or_left]

theorem isConnected_source (he : e ∈ d.edges) : d.isConnected e.source :=
  isConnected_iff.mpr ⟨e, he, touches_iff.mpr (.inl rfl)⟩

theorem isConnected_target (he : e ∈ d.edges) : d.isConnected e.target :=
  isConnected_iff.mpr ⟨e, he, touches_iff.mpr (.inr rfl)⟩

theorem mem_isolates_iff : id ∈ d.isolates ↔ d.hasNode id ∧ ¬ d.isConnected id := by
  rw [isolates, List.mem_filter, mem_ids_iff, Bool.not_eq_true', Bool.not_eq_true]

theorem mem_names_iff : id ∈ d.names ↔ d.hasNode id ∨ d.isConnected id := by
  rw [names, List.mem_append, ← hasNode_iff, isConnected_iff, List.mem_flatMap]
  simp only [List.mem_pair, touches_iff, @eq_comm _ id]

theorem listsIsolates_isolates (d : Diagram) : d.ListsIsolates d.isolates where
  nodup := nodup_ids.filter _
  mem_iff id := by
    rw [mem_isolates_iff, isConnected_iff]
    simp only [touches_iff, not_exists, not_and, not_or]
  mem_iff_degree id := by rw [mem_isolates_iff, not_isConnected_iff]
  mem_iff_mem_names id := by
    rw [mem_isolates_iff, mem_names_iff, ← not_isConnected_iff]
    constructor
    · rintro ⟨hnode, hfree⟩
      exact ⟨.inl hnode, hfree⟩
    · rintro ⟨hname, hfree⟩
      exact ⟨hname.resolve_right hfree, hfree⟩
  mem_iff_not_isConnected _ := mem_isolates_iff

/-- Every node on a walk with a step is connected. -/
theorem isConnected_of_mem_walk (hp : p.IsChain d.Joins) (hl : 2 ≤ p.length) (hid : id ∈ p) :
    d.isConnected id := by
  have hends : ∀ a b, d.Joins a b → d.isConnected a ∧ d.isConnected b := by
    rintro _ _ ⟨e, he, rfl, rfl, -, -⟩
    exact ⟨isConnected_source he, isConnected_target he⟩
  rcases p with _ | ⟨a, _ | ⟨b, rest⟩⟩
  · simp at hl
  · simp at hl
  · rcases List.mem_cons.mp hid with rfl | hid
    · exact (hends _ _ (List.isChain_cons_cons.mp hp).1).1
    · exact forall_mem_of_isChain_cons hp (fun a b hab => (hends a b hab).2) id hid

/-! ## Successors -/

theorem mem_successors_iff : b ∈ d.successors a ↔ d.Joins a b := by
  rw [successors, List.mem_eraseDups, mem_targets_iff]

theorem targets_eq (d : Diagram) (a : String) :
    d.targets a = (d.edges.filter fun e => d.isInner e && e.source == a).map (·.target) := by
  rw [targets, innerEdges, List.filter_filter]
  simp only [Bool.and_comm]

/-- From an existing node to another all edges are between existing nodes. -/
theorem firstEdge_eq (h : d.Joins a b) : d.firstEdge a b =
    d.edges.findIdx fun e => (d.isInner e && e.source == a) && e.target == b := by
  obtain ⟨-, -, -, -, ha, hb⟩ := h
  refine congrArg (List.findIdx · d.edges) (funext fun e => ?_)
  rw [Bool.eq_iff_iff]
  simp only [isInner, Bool.and_eq_true, beq_iff_eq]
  constructor
  · rintro ⟨rfl, rfl⟩
    exact ⟨⟨⟨ha, hb⟩, rfl⟩, rfl⟩
  · rintro ⟨⟨-, hsource⟩, htarget⟩
    exact ⟨hsource, htarget⟩

theorem pairwise_firstEdge_successors (d : Diagram) (a : String) :
    (d.successors a).Pairwise fun b c => d.firstEdge a b < d.firstEdge a c := by
  have hordered := pairwise_findIdx_eraseDups (fun e => d.isInner e && e.source == a)
    Connection.target d.edges
  rw [← targets_eq, ← successors] at hordered
  apply hordered.imp_of_mem
  intro b c hb hc hlt
  rwa [firstEdge_eq (mem_successors_iff.mp hb), firstEdge_eq (mem_successors_iff.mp hc)]

theorem length_successors_le (d : Diagram) (a : String) :
    (d.successors a).length ≤ d.outDegree a :=
  calc (d.successors a).length
      ≤ (d.targets a).length := length_eraseDups_le _
    _ = ((d.edges.filter (·.source == a)).filter d.isInner).length := by
        rw [targets_eq, List.length_map, List.filter_filter]
    _ ≤ d.outDegree a := List.length_filter_le _ _

theorem listsSuccessors_successors (d : Diagram) (a : String) :
    d.ListsSuccessors a (d.successors a) where
  nodup := nodup_eraseDups _
  mem_iff b := by
    rw [mem_successors_iff]
    constructor
    · rintro ⟨e, he, hsource, htarget, ha, hb⟩
      exact ⟨ha, hb, e, he, hsource, htarget⟩
    · rintro ⟨ha, hb, e, he, hsource, htarget⟩
      exact ⟨e, he, hsource, htarget, ha, hb⟩
  ordered := pairwise_firstEdge_successors d a
  length_le := length_successors_le d a

end DesignRules.Diagram
