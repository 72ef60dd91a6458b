import DesignRules.Proofs.Checks.Itemwise
import DesignRules.Proofs.Graph.Agreement

/-! # Designs that resemble each other

Two designs may list their components in different ways and yet have the same connections and
know the same about each component. Their graphs are the same, and so is what the checks of
connections, ports, circuits and paths say.
-/

namespace DesignRules

open Check Checks Outcome

/-- The same connections between the same components, about each of which the same is known. -/
structure Context.Resembles (ctx ctx' : Context) : Prop extends ctx.SameTerms ctx' where
  edges : ctx.diagram.edges = ctx'.diagram.edges
  ids : ctx.diagram.ids = ctx'.diagram.ids
  agreeAt : ∀ id, ctx.AgreeAt ctx' id

namespace Context.Resembles

variable {ctx ctx' : Context} {check : Check} (h : ctx.Resembles ctx')

include h

theorem agreeAround (id : String) : ctx.AgreeAround ctx' id where
  toAgreeAt := h.agreeAt id
  outDegree := by rw [Diagram.outDegree, h.edges, ← Diagram.outDegree]
  inDegree := by rw [Diagram.inDegree, h.edges, ← Diagram.inDegree]
  connected := fun _ => contains_connectedPorts_congr (fun _ _ => by rw [h.edges])
    fun _ _ => ⟨h.agreeAt _, h.agreeAt _⟩

/-! ## The graph -/

theorem targets : ctx.diagram.targets = ctx'.diagram.targets := by
  have hinner : ctx.diagram.isInner = ctx'.diagram.isInner :=
    funext fun e => Context.AgreeAt.isInner (h.agreeAt e.source) (h.agreeAt e.target)
  funext id
  rw [Diagram.targets, Diagram.innerEdges, hinner, h.edges, ← Diagram.innerEdges,
    ← Diagram.targets]

theorem circuits : ctx.diagram.circuits = ctx'.diagram.circuits :=
  Diagram.circuits_congr h.ids fun a b => by
    rw [← Diagram.mem_targets_iff, ← Diagram.mem_targets_iff, h.targets]

theorem terminalPaths : ctx.diagram.terminalPaths = ctx'.diagram.terminalPaths := by
  have hagree : ctx.diagram.AgreeOn ctx'.diagram Set.univ :=
    ⟨fun id _ => (h.agreeAt id).hasNode, fun id _ => congrFun h.targets id,
      fun _ _ _ _ => Set.mem_univ _⟩
  funext start depth
  exact hagree.terminalPaths_eq (Set.mem_univ start)

theorem wired : ctx.wired = ctx'.wired := by
  have hends : ctx.resolver.ends? = ctx'.resolver.ends? :=
    funext fun e => Context.AgreeAt.ends? (h.agreeAt e.source) (h.agreeAt e.target)
  rw [Context.wired, Context.wired, h.edges, hends]

/-! ## The checks -/

theorem eq_of_isEdgewise (hcheck : check.IsEdgewise) : check ctx = check ctx' := by
  obtain ⟨judge, hjudge, hlocal⟩ := hcheck
  rw [hjudge, hjudge, h.edges]
  exact gather_congr fun e _ => hlocal ctx ctx' e (h.agreeAt e.source) (h.agreeAt e.target)

theorem portUniqueness_eq : portUniqueness ctx = portUniqueness ctx' := by
  rw [portUniqueness, portUses, h.edges, ← portUses]
  exact List.map_congr_left fun _ _ => sharedPort_congr (h.agreeAt _)

theorem multipleMasters_eq : multipleMasters ctx = multipleMasters ctx' := by
  have hdriven : drivenPorts ctx.diagram = drivenPorts ctx'.diagram := by
    simp only [drivenPorts, h.edges, fun id => (h.agreeAt id).hasNode]
  rw [multipleMasters, multipleMasters, hdriven]
  simp only [isContended_congr (h.agreeAt _)]
  exact List.map_congr_left fun _ _ =>
    contendedPort_congr (h.agreeAt _) fun e _ => h.agreeAt e.source

theorem circularDependency_eq : circularDependency ctx = circularDependency ctx' :=
  circularDependency_congr h.circuits h.agreeAt

theorem longPaths_eq : longPaths ctx = longPaths ctx' :=
  longPaths_congr h.ids h.terminalPaths h.settings h.agreeAt

theorem gaps_eq : ctx.design.gaps = ctx'.design.gaps := by
  have hgap : ctx.design.isGap = ctx'.design.isGap := funext fun id => (h.agreeAt id).isGap
  exact (congrArg (List.filter · _) hgap).trans (congrArg (List.filter _) h.ids)

end Context.Resembles

end DesignRules
