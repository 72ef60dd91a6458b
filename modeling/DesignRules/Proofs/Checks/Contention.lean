import DesignRules.Proofs.Checks.Ports

/-! # Contended interfaces

Masters contend for the interface that their edges reach, but the edges are compared by the
handles that they name. All masters of a contended interface are named together exactly if
each of them comes in under one common handle.
-/

namespace DesignRules.Checks

/-- The edges that reach an interface of a component, whether they name it or not. -/
def reaching (ctx : Context) (id : String) (i : Interface) : List Connection :=
  ctx.diagram.edges.filter fun e =>
    e.target == id && decide ((ctx.resolver.resolveEdge e).2 = some i)

/-- The violation names the component and, as its masters, the sources of all the edges. -/
def Accuses (v : Violation) (id : String) (edges : List Connection) : Prop :=
  ∃ masters, v.affectedComponents = some (id :: masters) ∧ ∀ e ∈ edges, e.source ∈ masters

variable {ctx : Context} {id node port : String} {i : Interface} {e f : Connection}
  {edges accused : List Connection} {v : Violation}

theorem mem_multipleMasters_iff : v ∈ multipleMasters ctx ↔ ∃ node port edges,
    ((node, port), edges) ∈ drivenPorts ctx.diagram ∧ isContended ctx node edges ∧
      contendedPort ctx node port edges = v := by
  simp only [multipleMasters, List.mem_map, List.mem_filter, Prod.exists, and_assoc]

theorem components_contendedPort (ctx : Context) (node port : String) (edges : List Connection) :
    (contendedPort ctx node port edges).affectedComponents =
      some (node :: (edges.map (·.source)).eraseDups) :=
  congrArg (fun masters => some (node :: masters)) (map_drivers edges)

theorem accuses_contendedPort_iff : Accuses (contendedPort ctx node port edges) id accused ↔
    node = id ∧ ∀ e ∈ accused, ∃ f ∈ edges, f.source = e.source := by
  rw [Accuses, components_contendedPort]
  simp only [Option.some.injEq, List.cons.injEq]
  constructor
  · rintro ⟨_, ⟨rfl, rfl⟩, h⟩
    exact ⟨rfl, fun e he => List.mem_map.mp (List.mem_eraseDups.mp (h e he))⟩
  · rintro ⟨rfl, h⟩
    exact ⟨_, ⟨rfl, rfl⟩, fun e he => List.mem_eraseDups.mpr (List.mem_map.mpr (h e he))⟩

theorem isContended_of_ne {n : Node} (hn : ctx.diagram.node? id = some n)
    (hpassive : ctx.isArbiter n = false) (he : e ∈ edges) (hf : f ∈ edges)
    (hne : e.source ≠ f.source) : isContended ctx id edges := by
  by_contra h
  exact hne (not_isContended_iff.mp h n hn hpassive e he f hf)

/-- The masters that contend for an interface are accused together exactly if under one handle
there is an edge from each of them. Edges without a handle come in under the handle
`default`, whatever interface they reach. -/
theorem exists_accuses_reaching_iff {n : Node} (hn : ctx.diagram.node? id = some n)
    (hpassive : ctx.isArbiter n = false) (he : e ∈ reaching ctx id i) (hf : f ∈ reaching ctx id i)
    (hne : e.source ≠ f.source) :
    (∃ v ∈ multipleMasters ctx, Accuses v id (reaching ctx id i)) ↔
      ∃ handle, ∀ e ∈ reaching ctx id i, ∃ f ∈ ctx.diagram.edges,
        drivenPort f = (id, handle) ∧ f.source = e.source := by
  constructor
  · rintro ⟨v, hv, haccuses⟩
    obtain ⟨node, port, edges, hgroup, -, rfl⟩ := mem_multipleMasters_iff.mp hv
    obtain ⟨rfl, hsources⟩ := accuses_contendedPort_iff.mp haccuses
    refine ⟨port, fun e he => ?_⟩
    obtain ⟨f, hf, hsource⟩ := hsources e he
    obtain ⟨hf, hport⟩ := (mem_iff_of_mem_drivenPorts hgroup).mp hf
    exact ⟨f, hf, hport, hsource⟩
  · rintro ⟨handle, h⟩
    obtain ⟨e', he', hport, hsource⟩ := h e he
    obtain ⟨f', hf', hport', hsource'⟩ := h f hf
    have hgroup := mem_drivenPorts_iff.mpr
      ⟨⟨e', he', Diagram.hasNode_of_node? hn, hport⟩, rfl⟩
    have hmem := fun e => mem_iff_of_mem_drivenPorts (e := e) hgroup
    refine ⟨_, mem_multipleMasters_iff.mpr ⟨id, handle, _, hgroup, ?_, rfl⟩,
      accuses_contendedPort_iff.mpr ⟨rfl, fun e he => ?_⟩⟩
    · refine isContended_of_ne hn hpassive ((hmem e').mpr ⟨he', hport⟩)
        ((hmem f').mpr ⟨hf', hport'⟩) ?_
      rwa [hsource, hsource']
    · obtain ⟨f, hf, hport, hsource⟩ := h e he
      exact ⟨f, (hmem f).mpr ⟨hf, hport⟩, hsource⟩

def onlySlave : Interface := ⟨"s0", "s0", none, .slave, none, none, none, none, none, false, []⟩

def onlyMaster : Interface := ⟨"m", "m", none, .master, none, none, none, none, none, false, []⟩

def memory : Node := ⟨"mem", "Memory", none, none, none, none, none, none, [onlySlave]⟩

/-- Two processors wired to the one slave interface of a memory. The first names it, the
second may leave it out. -/
def twoProcessors (handle : Option String) : Context where
  design :=
    { diagram :=
        { nodes :=
            [⟨"c0", "CPU0", none, none, none, none, none, none, [onlyMaster]⟩,
             ⟨"c1", "CPU1", none, none, none, none, none, none, [onlyMaster]⟩, memory]
          edges :=
            [⟨"e0", "c0", "mem", some "m", some "s0", none⟩,
             ⟨"e1", "c1", "mem", some "m", handle, none⟩] }
      library := [] }
  options := ⟨false⟩
  settings := Settings.default
  arbiter := none

/-- Both name the interface, and both are accused. -/
theorem accuses_twoProcessors_named :
    ((twoProcessors (some "s0")).diagram.node? "mem" = some memory ∧
      (twoProcessors (some "s0")).isArbiter memory = false ∧
      reaching (twoProcessors (some "s0")) "mem" onlySlave =
        (twoProcessors (some "s0")).diagram.edges) ∧
    ∃ v ∈ multipleMasters (twoProcessors (some "s0")),
      Accuses v "mem" (reaching (twoProcessors (some "s0")) "mem" onlySlave) := by
  have hnode : (twoProcessors (some "s0")).diagram.node? "mem" = some memory := by decide
  have hpassive : (twoProcessors (some "s0")).isArbiter memory = false := by decide +kernel
  have hiff := exists_accuses_reaching_iff (i := onlySlave)
    (e := ⟨"e0", "c0", "mem", some "m", some "s0", none⟩)
    (f := ⟨"e1", "c1", "mem", some "m", some "s0", none⟩) hnode hpassive (by decide) (by decide)
    (by decide)
  exact ⟨⟨hnode, hpassive, by decide⟩, hiff.mpr ⟨"s0", by decide⟩⟩

/-- Interface identifiers are unique and both reach the one slave interface of a component that
is no arbiter, but the second leaves it out, and nothing is reported. -/
theorem multipleMasters_twoProcessors_unnamed :
    (∀ n ∈ (twoProcessors none).diagram.nodes,
      (((twoProcessors none).interfaces n.id).map (·.id)).Nodup) ∧
    (twoProcessors none).diagram.node? "mem" = some memory ∧
    (twoProcessors none).isArbiter memory = false ∧
    onlySlave ∈ (twoProcessors none).interfaces "mem" ∧ onlySlave.direction = .slave ∧
    (∃ e ∈ reaching (twoProcessors none) "mem" onlySlave,
      ∃ f ∈ reaching (twoProcessors none) "mem" onlySlave, e.source ≠ f.source) ∧
    ¬ ∃ v ∈ multipleMasters (twoProcessors none),
      Accuses v "mem" (reaching (twoProcessors none) "mem" onlySlave) := by
  have hnone : multipleMasters (twoProcessors none) = [] := by
    rw [← List.length_eq_zero_iff]
    decide +kernel
  refine ⟨by decide, by decide, by decide +kernel, by decide, rfl, ?_, ?_⟩
  · exact ⟨⟨"e0", "c0", "mem", some "m", some "s0", none⟩, by decide,
      ⟨"e1", "c1", "mem", some "m", none, none⟩, by decide, by decide⟩
  · simp [hnone]

end DesignRules.Checks
