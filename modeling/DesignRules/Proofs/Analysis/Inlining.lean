import DesignRules.Proofs.Checks.Resemblance

/-! # Writing library interfaces into the diagram

A node without interfaces takes those of its component in the library. A run finds the
same, and fails in the same way, when these are written into the diagram instead.
-/

namespace DesignRules

/-- The node with the interfaces of its component if it has none of its own. -/
def Node.inlined (library : List Component) (n : Node) : Node :=
  match (filled n.componentId).bind fun id => library.find? (·.id == id) with
  | some component =>
    if n.interfaces.isEmpty && !component.interfaces.isEmpty then
      { n with interfaces := component.interfaces }
    else n
  | none => n

def Diagram.inlined (library : List Component) (d : Diagram) : Diagram :=
  { d with nodes := d.nodes.map (Node.inlined library) }

/-- The same context with all interfaces in the diagram and an empty library. -/
def Context.inlined (ctx : Context) : Context :=
  { ctx with design := ⟨ctx.diagram.inlined ctx.design.library, []⟩ }

theorem Design.nodeInterfaces_nil (d : Diagram) (n : Node) :
    Design.nodeInterfaces ⟨d, []⟩ n = n.interfaces := by
  unfold nodeInterfaces libraryInterfaces component?
  cases n.interfaces <;> cases filled n.componentId <;> rfl

theorem Node.inlined_eq (design : Design) (n : Node) :
    n.inlined design.library = { n with interfaces := design.nodeInterfaces n } := by
  have hcomponent : ((filled n.componentId).bind fun id =>
      design.library.find? (·.id == id)) = (filled n.componentId).bind design.component? := rfl
  unfold inlined Design.nodeInterfaces Design.libraryInterfaces
  rw [hcomponent]
  cases (filled n.componentId).bind design.component? with
  | none => cases n with | mk _ _ _ _ _ _ _ _ interfaces => cases interfaces <;> rfl
  | some component =>
    cases n with | mk _ _ _ _ _ _ _ _ interfaces =>
      cases interfaces <;> cases hc : component.interfaces <;> simp

variable {ctx : Context} {id : String}

namespace Context

theorem nodes_inlined (ctx : Context) : ctx.inlined.diagram.nodes =
    ctx.diagram.nodes.map fun n => { n with interfaces := ctx.design.nodeInterfaces n } :=
  List.map_congr_left fun n _ => Node.inlined_eq ctx.design n

/-! ## The graph -/

theorem map_id_inlined (ctx : Context) :
    ctx.inlined.diagram.nodes.map (·.id) = ctx.diagram.nodes.map (·.id) := by
  rw [nodes_inlined, List.map_map]
  rfl

theorem ids_inlined (ctx : Context) : ctx.inlined.diagram.ids = ctx.diagram.ids := by
  rw [Diagram.ids, map_id_inlined, ← Diagram.ids]

theorem hasNode_inlined (ctx : Context) (id : String) :
    ctx.inlined.diagram.hasNode id = ctx.diagram.hasNode id := by
  rw [Bool.eq_iff_iff, Diagram.hasNode_iff, Diagram.hasNode_iff, map_id_inlined]

/-! ## What is known about the components -/

variable {ctx : Context}

theorem node?_inlined (ctx : Context) (id : String) : ctx.inlined.diagram.node? id =
    (ctx.diagram.node? id).map fun n => { n with interfaces := ctx.design.nodeInterfaces n } := by
  rw [Diagram.node?, nodes_inlined, List.find?_map]
  rfl

/-- Interfaces in the diagram do not matter to the usual way to recognise an arbiter. -/
theorem isArbiter_inlined (h : ctx.arbiter = none) (n : Node) (interfaces : List Interface) :
    ctx.inlined.isArbiter { n with interfaces := interfaces } = ctx.isArbiter n := by
  have h' : ctx.inlined.arbiter = none := h
  simp only [isArbiter, h, h']
  rfl

theorem interfaces_inlined (ctx : Context) (id : String) :
    ctx.inlined.interfaces id = ctx.interfaces id := by
  have hnode := node?_inlined ctx id
  unfold diagram at hnode
  unfold interfaces Design.interfaces
  rw [hnode]
  cases ctx.design.diagram.node? id with
  | none => rfl
  | some n => exact Design.nodeInterfaces_nil _ _

theorem agreeAt_inlined (h : ctx.arbiter = none) (id : String) : ctx.AgreeAt ctx.inlined id where
  hasNode := (hasNode_inlined ctx id).symm
  label := by
    simp only [label, Diagram.label, node?_inlined]
    cases ctx.diagram.node? id <;> rfl
  interfaces := (interfaces_inlined ctx id).symm
  isPassive := by
    rw [isPassive, isPassive, node?_inlined, Option.any_map]
    refine congrArg (Option.any · _) (funext fun n => ?_)
    exact congrArg (!·) (isArbiter_inlined h n _).symm

theorem resembles_inlined (h : ctx.arbiter = none) : ctx.Resembles ctx.inlined where
  options := rfl
  settings := rfl
  arbiter := rfl
  patterns := rfl
  edges := rfl
  ids := (ids_inlined ctx).symm
  agreeAt := agreeAt_inlined h

end Context

/-! ## The checks -/

namespace Checks

open Check Outcome

variable {ctx : Context} {check : Check}

theorem eq_inlined_of_isNodewise (h : ctx.arbiter = none) (hcheck : check.IsNodewise) :
    check ctx = check ctx.inlined := by
  obtain ⟨judge, hjudge, hlocal⟩ := hcheck
  rw [hjudge, hjudge, Context.nodes_inlined, gather_map]
  exact gather_congr fun n _ =>
    hlocal ctx ctx.inlined n _ ⟨rfl, rfl, rfl, rfl⟩ ⟨_, rfl⟩
      ((Context.resembles_inlined h).agreeAround n.id)

theorem addressOverlap_inlined (h : ctx.arbiter = none) :
    addressOverlap ctx = addressOverlap ctx.inlined := by
  have hranges : addressRanges ctx = addressRanges ctx.inlined := by
    rw [addressRanges, addressRanges, Context.nodes_inlined, List.map_map]
    refine congrArg rangesOf (List.map_congr_left fun n _ => ?_)
    exact occupied_eq ⟨_, rfl⟩ (Context.agreeAt_inlined h n.id)
  rw [addressOverlap, addressOverlap, hranges]

theorem uniqueLabels_inlined (ctx : Context) : uniqueLabels ctx = uniqueLabels ctx.inlined := by
  have huses : labelUses ctx.diagram = labelUses ctx.inlined.diagram := by
    have hblank : ∀ (n : Node) is, hasBlankLabel { n with interfaces := is } = hasBlankLabel n :=
      fun _ _ => rfl
    simp only [labelUses, groupBy, Context.nodes_inlined, List.filter_map, List.map_map,
      Function.comp_def, hblank]
  rw [uniqueLabels, uniqueLabels, huses]

theorem interfaceNaming_inlined (h : ctx.arbiter = none) :
    interfaceNaming ctx = interfaceNaming ctx.inlined := by
  rcases interfaceNaming_eq_or (nameTest ctx) with ⟨failure, hfail⟩ | ⟨check, hcheck, heq⟩
  · rw [hfail ctx rfl, hfail ctx.inlined rfl]
  · rw [heq ctx rfl, heq ctx.inlined rfl]
    exact eq_inlined_of_isNodewise h hcheck

end Checks

namespace Analysis

open Check Checks

variable {ctx : Context} {timestamp : String}

theorem check_inlined (h : ctx.arbiter = none) :
    ∀ check ∈ checks, check ctx = check ctx.inlined := by
  have hr := Context.resembles_inlined h
  exact forall_mem_checks (fun _ => hr.eq_of_isEdgewise) (fun _ => eq_inlined_of_isNodewise h)
    (congrArg Except.ok hr.portUniqueness_eq) (congrArg Except.ok hr.multipleMasters_eq)
    (addressOverlap_inlined h) (congrArg Except.ok hr.circularDependency_eq)
    (congrArg Except.ok hr.longPaths_eq) (congrArg Except.ok (uniqueLabels_inlined ctx))
    (interfaceNaming_inlined h)

/-- Under the usual way to recognise arbiters a run finds the same, or fails in the same
way, whether interfaces stand in the library or in the diagram. -/
theorem run_inlined [Pattern.Engine] (d : Diagram) (library : List Component) (options : Options)
    (settings : Settings) (timestamp : String) :
    Analysis.run timestamp ⟨⟨d.inlined library, []⟩, options, settings, none⟩ =
      Analysis.run timestamp ⟨⟨d, library⟩, options, settings, none⟩ := by
  let ctx : Context := ⟨⟨d, library⟩, options, settings, none⟩
  have hviolations : violations ctx.inlined = violations ctx :=
    (Outcome.gather_congr (l := checks) (check_inlined rfl)).symm
  change Analysis.run timestamp ctx.inlined = Analysis.run timestamp ctx
  rw [Analysis.run, Analysis.run, hviolations, ← (Context.resembles_inlined rfl).gaps_eq]

end Analysis

end DesignRules
