import DesignRules.Proofs.Graph.Circuits

/-! # Reversed diagrams

All edges the other way round. Every circuit is run through backwards, from the same node on.
-/

namespace DesignRules

/-- The connection with its ends exchanged. -/
def Connection.reversed (e : Connection) : Connection :=
  { e with
    source := e.target
    target := e.source
    sourceHandle := e.targetHandle
    targetHandle := e.sourceHandle }

namespace Diagram

/-- The diagram with the ends of all edges exchanged. -/
def reversed (d : Diagram) : Diagram := ⟨d.nodes, d.edges.map Connection.reversed⟩

/-- A circuit run through backwards from its first node on. -/
def turned : List String → List String
  | [] => []
  | root :: rest => root :: rest.reverse

variable {d : Diagram} {a b : String} {c : List String}

theorem reversed_reversed (d : Diagram) : d.reversed.reversed = d := by
  have hinvolutive : Connection.reversed ∘ Connection.reversed = id := rfl
  rw [reversed, reversed, List.map_map, hinvolutive, List.map_id]

/-! ## Degrees -/

theorem outDegree_reversed (d : Diagram) (id : String) :
    d.reversed.outDegree id = d.inDegree id := by
  rw [outDegree, reversed, List.filter_map, List.length_map]
  rfl

theorem inDegree_reversed (d : Diagram) (id : String) :
    d.reversed.inDegree id = d.outDegree id := by
  rw [inDegree, reversed, List.filter_map, List.length_map]
  rfl

theorem isConnected_reversed (d : Diagram) (id : String) :
    d.reversed.isConnected id = d.isConnected id := by
  rw [isConnected, outDegree_reversed, inDegree_reversed, Bool.or_comm, ← isConnected]

/-! ## Circuits -/

theorem Joins.reversed (h : d.Joins a b) : d.reversed.Joins b a := by
  obtain ⟨e, he, hs, ht, ha, hb⟩ := h
  exact ⟨e.reversed, List.mem_map_of_mem he, ht, hs, hb, ha⟩

theorem turned_turned (c : List String) : turned (turned c) = c := by
  cases c <;> simp [turned]

theorem mem_turned_iff : a ∈ turned c ↔ a ∈ c := by
  cases c <;> simp [turned]

theorem IsLoop.turned (h : d.IsLoop c) : d.reversed.IsLoop (turned c) := by
  obtain ⟨root, rest, rfl⟩ := List.exists_cons_of_ne_nil h.ne_nil
  obtain ⟨hn, hc⟩ := isLoop_cons_iff.mp h
  refine isLoop_cons_iff.mpr ⟨?_, ?_⟩
  · exact ((List.reverse_perm rest).cons root).nodup_iff.mpr hn
  · have hreverse : root :: rest.reverse ++ [root] = (root :: rest ++ [root]).reverse := by simp
    rw [hreverse, List.isChain_reverse]
    exact hc.imp fun _ _ => Joins.reversed

theorem IsCircuit.turned (h : d.IsCircuit c) : d.reversed.IsCircuit (Diagram.turned c) := by
  refine ⟨h.toIsLoop.turned, fun root hroot id hid => h.earliest root ?_ id ?_⟩
  · cases c <;> exact hroot
  · exact mem_turned_iff.mp hid

theorem isCircuit_reversed_iff : d.reversed.IsCircuit c ↔ d.IsCircuit (turned c) := by
  constructor
  · intro h
    have hturned := h.turned
    rwa [reversed_reversed] at hturned
  · intro h
    have hturned := h.turned
    rwa [turned_turned] at hturned

/-- The circuits of the reversed diagram are those of the diagram, run through backwards. -/
theorem circuits_reversed_perm (d : Diagram) : d.reversed.circuits.Perm (d.circuits.map turned) := by
  have hinj : Function.Injective turned :=
    Function.LeftInverse.injective turned_turned
  refine (List.perm_ext_iff_of_nodup nodup_circuits (nodup_circuits.map hinj)).mpr fun c => ?_
  rw [mem_circuits_iff, isCircuit_reversed_iff, ← mem_circuits_iff]
  constructor
  · exact fun hc => List.mem_map.mpr ⟨turned c, hc, turned_turned c⟩
  · intro hc
    obtain ⟨c, hc, rfl⟩ := List.mem_map.mp hc
    rwa [turned_turned]

end Diagram

end DesignRules
