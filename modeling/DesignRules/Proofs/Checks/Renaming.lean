import DesignRules.Proofs.Checks.DataWidths
import DesignRules.Proofs.Checks.Itemwise
import DesignRules.Proofs.Graph.Renaming

/-! # Checks of renamed diagrams

Under other identifiers for the nodes, every check fails as before or lists the same breaches
in the same order, with the new identifiers for the components.
-/

namespace DesignRules

open Check Outcome

/-- What a violation says but for its words, with other identifiers for the components. -/
def Outline.renamed (r : String → String) (o : Outline) : Outline :=
  { o with components := o.components.map (List.map r) }

namespace Context

/-- The same analysis with other identifiers for the nodes. -/
def renamed (r : String → String) (ctx : Context) : Context := ctx.on (ctx.diagram.renamed r)

/-- An arbiter is not recognised by its identifier. -/
def IgnoresIds (ctx : Context) : Prop :=
  ∀ p, ctx.arbiter = some p → ∀ (n : Node) (id : String), p { n with id := id } = p n

variable {ctx : Context} {r : String → String}

theorem IgnoresIds.isArbiter_renamed (h : ctx.IgnoresIds) (n : Node) :
    (ctx.renamed r).isArbiter (n.renamed r) = ctx.isArbiter n := by
  have harbiter : (ctx.renamed r).arbiter = ctx.arbiter := rfl
  unfold isArbiter
  rw [harbiter]
  cases hp : ctx.arbiter with
  | none => rfl
  | some p => exact h p hp n _

variable (hr : Function.Injective r)

include hr

/-! ## Resolution -/

theorem interfaces_renamed (id : String) :
    (ctx.renamed r).interfaces (r id) = ctx.interfaces id := by
  have hnode : (ctx.renamed r).design.diagram.node? (r id) =
      (ctx.design.diagram.node? id).map (Node.renamed r) := Diagram.node?_renamed hr id
  unfold interfaces Design.interfaces
  rw [hnode]
  cases ctx.design.diagram.node? id <;> rfl

theorem find?_renamed (id : String) (handle : Option String) :
    (ctx.renamed r).resolver.find? (r id) handle = ctx.resolver.find? id handle :=
  Resolver.find?_congr (interfaces_renamed hr id) handle

theorem pick?_renamed (id : String) (handle : Option String) (direction : Direction) :
    (ctx.renamed r).resolver.pick? (r id) handle direction =
      ctx.resolver.pick? id handle direction :=
  Resolver.pick?_congr (interfaces_renamed hr id) handle direction

theorem resolveEdge_renamed (e : Connection) :
    (ctx.renamed r).resolver.resolveEdge (e.renamed r) = ctx.resolver.resolveEdge e := by
  have hinner : (ctx.renamed r).resolver.diagram.isInner (e.renamed r) =
      ctx.resolver.diagram.isInner e :=
    congrArg₂ (· && ·) (Diagram.hasNode_renamed hr e.source) (Diagram.hasNode_renamed hr e.target)
  rw [Resolver.resolveEdge, hinner, Resolver.sourceInterface?, Resolver.targetInterface?]
  simp only [Connection.renamed, pick?_renamed hr]
  rfl

theorem wired_renamed :
    (ctx.renamed r).wired = ctx.wired.map fun wire => (wire.1.renamed r, wire.2) := by
  change (ctx.diagram.edges.map (Connection.renamed r)).filterMap _ = _
  rw [List.filterMap_map, wired, List.map_filterMap]
  refine List.filterMap_congr fun e _ => ?_
  simp only [Function.comp_apply, Resolver.ends?, resolveEdge_renamed hr, Option.map_map]
  rfl

theorem isPassive_renamed (h : ctx.IgnoresIds) (id : String) :
    (ctx.renamed r).isPassive (r id) = ctx.isPassive id := by
  have hnode : (ctx.renamed r).diagram.node? (r id) = (ctx.diagram.node? id).map (Node.renamed r) :=
    Diagram.node?_renamed hr id
  rw [isPassive, hnode, Option.any_map, isPassive]
  simp only [h.isArbiter_renamed]

theorem isGap_renamed (id : String) :
    (ctx.renamed r).design.isGap (r id) = ctx.design.isGap id :=
  congrArg₂ (· && ·) (Diagram.hasNode_renamed hr id)
    (congrArg List.isEmpty (interfaces_renamed hr id))

theorem gaps_renamed : (ctx.renamed r).design.gaps = ctx.design.gaps.map r := by
  have hids : (ctx.renamed r).design.diagram.ids = ctx.design.diagram.ids.map r :=
    Diagram.ids_renamed hr _
  rw [Design.gaps, hids, List.filter_map, Design.gaps]
  simp only [Function.comp_def, isGap_renamed hr]

end Context

/-- Under other identifiers for the nodes the check finds the same in outline, with these for the
components. -/
def Check.Renames (check : Check) (r : String → String) (ctx : Context) : Prop :=
  (check (ctx.renamed r)).map (List.map Violation.outline) =
    (check ctx).map (List.map fun v => v.outline.renamed r)

namespace Checks

variable {ctx : Context} {r : String → String}

theorem edgeIds_renamed (edges : List Connection) :
    edgeIds (edges.map (Connection.renamed r)) = edgeIds edges := by
  rw [edgeIds, List.map_map]
  rfl

theorem renames_ofPure {check : Context → List Violation}
    (h : (check (ctx.renamed r)).map Violation.outline =
      (check ctx).map fun v => v.outline.renamed r) : (ofPure check).Renames r ctx :=
  congrArg Except.ok h

/-- A check that reports those of some items that have some property. -/
theorem renames_filter {α : Type} (items : Context → List α) (applies : Context → α → Bool)
    (report : Context → α → Violation) (f : α → α)
    (hitems : items (ctx.renamed r) = (items ctx).map f)
    (happlies : ∀ a, applies (ctx.renamed r) (f a) = applies ctx a)
    (hreport : ∀ a, (report (ctx.renamed r) (f a)).outline = (report ctx a).outline.renamed r) :
    (ofPure fun ctx => ((items ctx).filter (applies ctx)).map (report ctx)).Renames r ctx := by
  refine renames_ofPure ?_
  rw [hitems, List.filter_map, List.map_map, List.map_map, List.map_map]
  simp only [Function.comp_def, happlies, hreport]

/-! ## Components -/

/-- A check that reports the entries with some property. -/
theorem renames_nodes (applies : Context → Node → Bool) (report : Context → Node → Violation)
    (happlies : ∀ n, applies (ctx.renamed r) (n.renamed r) = applies ctx n)
    (hreport : ∀ n, (report (ctx.renamed r) (n.renamed r)).outline =
      (report ctx n).outline.renamed r) :
    (ofPure fun ctx => (ctx.diagram.nodes.filter (applies ctx)).map (report ctx)).Renames r ctx :=
  renames_filter (·.diagram.nodes) applies report (Node.renamed r) rfl happlies hreport

theorem renames_requiredLabel : (ofPure requiredLabel).Renames r ctx := by
  refine renames_nodes _ _ (fun _ => ?_) fun _ => ?_
  · rfl
  · rfl

theorem renames_isolatedComponent (hr : Function.Injective r) :
    (ofPure isolatedComponent).Renames r ctx := by
  refine renames_nodes _ _ (fun n => ?_) fun _ => ?_
  · exact congrArg (!·) (Diagram.isConnected_renamed hr n.id)
  · rfl

theorem renames_interconnectFanout (hr : Function.Injective r) :
    (ofPure interconnectFanout).Renames r ctx := by
  refine renames_nodes _ _ (fun n => ?_) fun _ => ?_
  · have hout : (ctx.renamed r).diagram.outDegree (n.renamed r).id = ctx.diagram.outDegree n.id :=
      Diagram.outDegree_renamed hr n.id
    have hin : (ctx.renamed r).diagram.inDegree (n.renamed r).id = ctx.diagram.inDegree n.id :=
      Diagram.inDegree_renamed hr n.id
    rw [isCrowded, hout, hin]
    rfl
  · rfl

theorem labelUses_renamed (d : Diagram) :
    labelUses (d.renamed r) = (labelUses d).map fun use => (use.1, use.2.map r) := by
  have hgroups : groupBy (·.label)
      ((d.nodes.filter fun n => !hasBlankLabel n).map (Node.renamed r)) =
        (groupBy (·.label) (d.nodes.filter fun n => !hasBlankLabel n)).map
          fun group => (group.1, group.2.map (Node.renamed r)) :=
    groupBy_map _ _ Function.injective_id fun _ => rfl
  have hblank : ∀ n : Node, hasBlankLabel (n.renamed r) = hasBlankLabel n := fun _ => rfl
  have hnodes : (d.renamed r).nodes.filter (fun n => !hasBlankLabel n) =
      (d.nodes.filter fun n => !hasBlankLabel n).map (Node.renamed r) := by
    rw [Diagram.renamed, List.filter_map]
    simp only [Function.comp_def, hblank]
  rw [labelUses, hnodes, hgroups, labelUses, List.map_map, List.map_map]
  refine List.map_congr_left fun group _ => ?_
  simp only [Function.comp_apply, List.map_map]
  rfl

theorem renames_uniqueLabels : (ofPure uniqueLabels).Renames r ctx := by
  refine renames_filter (fun ctx => labelUses ctx.diagram)
    (fun _ use => decide (1 < use.2.length)) _ (fun use => (use.1, use.2.map r))
    (labelUses_renamed ctx.diagram) (fun use => ?_) fun _ => ?_
  · rw [List.length_map]
  · rfl

/-! ## Interfaces -/

section Interfaces

variable (hr : Function.Injective r)

include hr

theorem ports_renamed :
    ports (ctx.renamed r) = (ports ctx).map fun port => (r port.1, port.2) := by
  change (ctx.diagram.nodes.map (Node.renamed r)).flatMap _ = _
  rw [List.flatMap_map, ports, List.map_flatMap]
  refine List.flatMap_congr fun n _ => ?_
  have hinterfaces : (ctx.renamed r).interfaces (n.renamed r).id = ctx.interfaces n.id :=
    Context.interfaces_renamed hr n.id
  rw [hinterfaces, List.map_map]
  rfl

/-- A check that looks at every interface of every node entry by itself. -/
theorem renames_of_ports {check : Check}
    (judge : Context → String × Interface → Except CheckFailure (List Violation))
    (hcheck : ∀ ctx, check ctx = gather (judge ctx) (ports ctx))
    (hjudge : ∀ id i, (judge (ctx.renamed r) (r id, i)).map (List.map Violation.outline) =
      (judge ctx (id, i)).map (List.map fun v => v.outline.renamed r)) : check.Renames r ctx := by
  rw [Check.Renames, hcheck, hcheck, ports_renamed hr, gather_map,
    map_gather rfl fun _ _ => List.map_append, map_gather rfl fun _ _ => List.map_append]
  exact gather_congr fun port _ => hjudge port.1 port.2

omit hr in
theorem map_outline_widthViolation? (id : String) (i : Interface) :
    (widthViolation? (ctx.renamed r) (r id) i).map (Option.map Violation.outline) =
      (widthViolation? ctx id i).map (Option.map fun v => v.outline.renamed r) := by
  cases hw : i.dataWidth with
  | none =>
    rw [widthViolation?_of_eq_none hw, widthViolation?_of_eq_none hw]
    rfl
  | some w =>
    have hcanonical : isCanonical (ctx.renamed r) w = isCanonical ctx w := by cases w <;> rfl
    have hinvalid : (invalidWidth (ctx.renamed r) (r id) i w).map Violation.outline =
        (invalidWidth ctx id i w).map fun v => v.outline.renamed r := by
      unfold invalidWidth
      cases writtenWidth w <;> rfl
    have hunusual : (unusualWidth (ctx.renamed r) (r id) i w).map Violation.outline =
        (unusualWidth ctx id i w).map fun v => v.outline.renamed r := by
      have hsettings : (ctx.renamed r).settings = ctx.settings := rfl
      unfold unusualWidth
      rw [hsettings]
      cases writtenWidth w <;> cases writtenWidths ctx.settings.canonicalWidths <;> rfl
    have hsome : ∀ (k : Violation → Outline) (found : Except CheckFailure Violation),
        (found.map some).map (Option.map k) = (found.map k).map some := by
      intro k found
      cases found <;> rfl
    rw [widthViolation?_of_eq_some hw, widthViolation?_of_eq_some hw, hcanonical]
    cases isValidWidth w with
    | error => rfl
    | ok valid =>
      change Except.map _ (if valid then _ else _) = Except.map _ (if valid then _ else _)
      split
      · split
        · rfl
        · rw [hsome, hsome, hunusual]
      · rw [hsome, hsome, hinvalid]

theorem renames_dataWidths : Check.Renames dataWidths r ctx := by
  refine renames_of_ports hr
    (fun ctx port => (widthViolation? ctx port.1 port.2).map Option.toList)
    (fun ctx => map_filterMap_mapM _ _) fun id i => ?_
  have htoList : ∀ (k : Violation → Outline) (found : Except CheckFailure (Option Violation)),
      (found.map Option.toList).map (List.map k) = (found.map (Option.map k)).map Option.toList := by
    intro k found
    rcases found with _ | _ | _ <;> rfl
  rw [htoList, htoList, map_outline_widthViolation?]

theorem renames_namingUnder (isName : String → Bool) : (namingUnder isName).Renames r ctx := by
  refine renames_of_ports hr (fun ctx port =>
    .ok (if !isName port.2.name then [unconventionalName ctx port.1 port.2] else []))
    (fun ctx => ?_) fun id i => ?_
  · rw [gather_ok, ← map_filter_eq_flatMap]
    rfl
  · dsimp only
    split <;> rfl

theorem renames_interfaceNaming : Check.Renames interfaceNaming r ctx := by
  have htest : nameTest (ctx.renamed r) = nameTest ctx := rfl
  rw [Check.Renames, interfaceNaming, interfaceNaming, htest]
  cases nameTest ctx with
  | error => rfl
  | ok isName => exact renames_namingUnder hr isName

theorem connectedPorts_renamed :
    connectedPorts (ctx.renamed r) = (connectedPorts ctx).map (Prod.map r id) := by
  have hport : ∀ node handle found, touchedPort (r node) handle found =
      (touchedPort node handle found).map (Prod.map r id) := by
    intro node handle found
    rw [touchedPort, touchedPort, Option.map_map]
    rfl
  change (ctx.diagram.edges.map (Connection.renamed r)).flatMap _ = _
  rw [List.flatMap_map, connectedPorts, List.map_flatMap]
  refine List.flatMap_congr fun e _ => ?_
  rw [touchedPorts, Context.resolveEdge_renamed hr, touchedPorts, List.map_append,
    ← Option.toList_map, ← Option.toList_map, ← hport, ← hport]
  rfl

theorem map_outline_unconnectedAt (n : Node) :
    (unconnectedAt (ctx.renamed r) (n.renamed r)).map Violation.outline =
      (unconnectedAt ctx n).map fun v => v.outline.renamed r := by
  have hinterfaces : (ctx.renamed r).interfaces (n.renamed r).id = ctx.interfaces n.id :=
    Context.interfaces_renamed hr n.id
  have hoptions : (ctx.renamed r).options = ctx.options := rfl
  have hconnected : ∀ port, (connectedPorts (ctx.renamed r)).contains ((n.renamed r).id, port) =
      (connectedPorts ctx).contains (n.id, port) := fun port => by
    rw [connectedPorts_renamed hr]
    exact contains_map (hr.prodMap Function.injective_id) _ (n.id, port)
  have hreport : ∀ i, (unconnected? (ctx.renamed r) (n.renamed r).id i).map Violation.outline =
      (unconnected? ctx n.id i).map fun v => v.outline.renamed r := by
    intro i
    unfold unconnected?
    cases i.direction <;> rfl
  rw [unconnectedAt, hinterfaces, hoptions, List.map_filterMap, unconnectedAt, List.map_filterMap]
  refine List.filterMap_congr fun i _ => ?_
  rw [hconnected]
  split
  · rfl
  · exact hreport i

theorem renames_unconnectedInterfaces : (ofPure unconnectedInterfaces).Renames r ctx := by
  refine renames_ofPure ?_
  rw [unconnectedInterfaces_eq, unconnectedInterfaces_eq]
  change ((ctx.diagram.nodes.map (Node.renamed r)).flatMap _).map _ = _
  rw [List.flatMap_map, List.map_flatMap, List.map_flatMap]
  exact List.flatMap_congr fun n _ => map_outline_unconnectedAt hr n

end Interfaces

/-! ## Addresses -/

/-- The range under another identifier and another label. -/
def relocate (r label : String → String) (a : AddressRange) : AddressRange :=
  { a with node := r a.node, label := label a.node }

/-- Alters the range of an entry that has one. -/
def mapRange (f : AddressRange → AddressRange) : Occupied → Occupied
  | .range a => .range (f a)
  | o => o

theorem rangesOf_map (f : AddressRange → AddressRange) (os : List Occupied) :
    rangesOf (os.map (mapRange f)) = (rangesOf os).map (List.map f) := by
  induction os with
  | nil => rfl
  | cons o os ih =>
    cases o with
    | oversized => rfl
    | nothing => exact ih
    | range a =>
      rw [List.map_cons, mapRange, rangesOf, ih, rangesOf]
      cases rangesOf os <;> rfl

theorem occupied_renamed (d : Diagram) (n : Node) : (d.renamed r).occupied (n.renamed r) =
    mapRange (relocate r fun id => (d.renamed r).label (r id)) (d.occupied n) := by
  have hbase : (n.renamed r).addressBase = n.addressBase := rfl
  have hspace : (n.renamed r).addressSpace = n.addressSpace := rfl
  rw [Diagram.occupied, hbase, hspace, Diagram.occupied]
  cases filled n.addressBase with
  | none => rfl
  | some base =>
    cases filled n.addressSpace with
    | none => rfl
    | some space =>
      dsimp only
      unfold Occupied.ofTexts
      cases Address.ofText? base with
      | none => rfl
      | some first =>
        dsimp only
        split
        · rfl
        · rcases Address.parseSize? space with _ | _ | size <;> rfl

theorem addressRanges_renamed (r : String → String) (ctx : Context) :
    addressRanges (ctx.renamed r) = (addressRanges ctx).map
      (List.map (relocate r fun id => (ctx.renamed r).label (r id))) := by
  rw [addressRanges, addressRanges, ← rangesOf_map, List.map_map]
  change rangesOf ((ctx.diagram.nodes.map (Node.renamed r)).map _) = _
  rw [List.map_map]
  exact congrArg rangesOf (List.map_congr_left fun n _ => occupied_renamed ctx.diagram n)

theorem pairs_map {α β : Type} (f : α → β) (l : List α) :
    pairs (l.map f) = (pairs l).map (Prod.map f f) := by
  induction l with
  | nil => rfl
  | cons a l ih =>
    rw [List.map_cons, pairs, ih, pairs, List.map_append, List.map_map, List.map_map]
    rfl

/-- A check of the address ranges does not go by their nodes and labels. -/
theorem renames_of_ranges {check : Check} {report : List AddressRange → List Violation}
    (hcheck : check ctx = (addressRanges ctx).map report)
    (hrenamed : check (ctx.renamed r) = (addressRanges (ctx.renamed r)).map report)
    (hreport : ∀ label ranges,
      (report (ranges.map (relocate r label))).map Violation.outline =
        (report ranges).map fun v => v.outline.renamed r) : check.Renames r ctx := by
  rw [Check.Renames, hcheck, hrenamed, addressRanges_renamed]
  cases addressRanges ctx with
  | error => rfl
  | ok ranges => exact congrArg Except.ok (hreport _ ranges)

theorem renames_addressOverlap : Check.Renames addressOverlap r ctx := by
  refine renames_of_ranges rfl rfl fun label ranges => ?_
  rw [pairs_map, List.filter_map, List.map_map, List.map_map, List.map_map]
  rfl

theorem renames_addressAlignment : Check.Renames addressAlignment r ctx := by
  refine renames_of_ranges rfl rfl fun label ranges => ?_
  rw [List.filter_map, List.map_map, List.map_map, List.map_map]
  rfl

theorem renames_reservedAddress : Check.Renames reservedAddress r ctx := by
  refine renames_of_ranges rfl rfl fun label ranges => ?_
  rw [List.flatMap_map, List.map_flatMap, List.map_flatMap]
  refine List.flatMap_congr fun a _ => ?_
  rw [List.map_map, List.map_map]
  rfl

/-! ## Topology -/

section Graph

variable (hr : Function.Injective r)

include hr

theorem renames_circularDependency : (ofPure circularDependency).Renames r ctx := by
  have hcircuits : (ctx.renamed r).diagram.circuits = ctx.diagram.circuits.map (List.map r) :=
    Diagram.circuits_renamed hr _
  refine renames_ofPure ?_
  rw [circularDependency_eq, hcircuits, circularDependency_eq, List.map_map, List.map_map,
    List.map_map]
  rfl

theorem renames_longPaths : (ofPure longPaths).Renames r ctx := by
  have hids : (ctx.renamed r).diagram.ids = ctx.diagram.ids.map r := Diagram.ids_renamed hr _
  have hmaster : ∀ id, hasMaster (ctx.renamed r) (r id) = hasMaster ctx id := fun id => by
    rw [hasMaster, Context.interfaces_renamed hr, ← hasMaster]
  have hpaths : ∀ id depth, (ctx.renamed r).diagram.terminalPaths (r id) depth =
      (ctx.diagram.terminalPaths id depth).map (List.map r) := fun id depth =>
    Diagram.terminalPaths_renamed hr id depth
  have hsettings : (ctx.renamed r).settings = ctx.settings := rfl
  refine renames_ofPure ?_
  rw [longPaths, hids, List.filter_map, List.flatMap_map, List.map_flatMap, longPaths,
    List.map_flatMap, hsettings]
  simp only [Function.comp_def, hmaster]
  refine List.flatMap_congr fun id _ => ?_
  rw [hpaths, List.filter_map, List.map_map, List.map_map, List.map_map]
  simp only [Function.comp_def, List.length_map]
  rfl

/-! ## Connections -/

theorem renames_of_isWirewise {check : Check} (hcheck : check.IsWirewise) :
    check.Renames r ctx :=
  hcheck.map_outline_eq (Context.wired_renamed hr) fun _ _ => rfl

theorem renames_endpointExistence : (ofPure endpointExistence).Renames r ctx := by
  have hnode : ∀ id, (ctx.renamed r).diagram.hasNode (r id) = ctx.diagram.hasNode id :=
    Diagram.hasNode_renamed hr
  refine renames_ofPure ?_
  change ((ctx.diagram.edges.map (Connection.renamed r)).flatMap _).map _ = _
  rw [List.flatMap_map, List.map_flatMap, endpointExistence, List.map_flatMap]
  refine List.flatMap_congr fun e _ => ?_
  have hsource : (ctx.renamed r).diagram.hasNode (e.renamed r).source =
      ctx.diagram.hasNode e.source := hnode e.source
  have htarget : (ctx.renamed r).diagram.hasNode (e.renamed r).target =
      ctx.diagram.hasNode e.target := hnode e.target
  have hreport : ∀ description description' ends ends',
      (missingEnd (e.renamed r) description ends).outline =
        (missingEnd e description' ends').outline.renamed r := fun _ _ _ _ =>
    congrArg (fun ids => Outline.mk _ _ _ _ (some ids)) (edgeIds_renamed [e])
  rw [hsource, htarget, List.map_append, List.map_append]
  refine congrArg₂ (· ++ ·) ?_ ?_
  · split
    · rfl
    · exact congrArg (fun o => [o]) (hreport _ _ _ _)
  · split
    · rfl
    · exact congrArg (fun o => [o]) (hreport _ _ _ _)

omit hr in
theorem references_renamed (e : Connection) : references (e.renamed r) =
    (references e).map (Prod.map (Prod.map r id) (Connection.renamed r)) := by
  rw [references, references, List.map_append, ← Option.toList_map, ← Option.toList_map,
    Option.map_map, Option.map_map]
  rfl

theorem portUses_renamed (d : Diagram) : portUses (d.renamed r) =
    (portUses d).map (Prod.map (Prod.map r id) (List.map (Connection.renamed r))) := by
  have hreferences : (d.renamed r).edges.flatMap references =
      (d.edges.flatMap references).map (Prod.map (Prod.map r id) (Connection.renamed r)) := by
    change (d.edges.map (Connection.renamed r)).flatMap _ = _
    rw [List.flatMap_map, List.map_flatMap]
    exact List.flatMap_congr fun e _ => references_renamed e
  rw [portUses, hreferences,
    groupBy_map Prod.fst Prod.fst (hr.prodMap Function.injective_id) fun _ => rfl, portUses,
    List.map_map, List.map_map]
  refine List.map_congr_left fun group _ => ?_
  simp only [Function.comp_apply, List.map_map, Prod.map]
  rfl

theorem renames_portUniqueness : (ofPure portUniqueness).Renames r ctx := by
  refine renames_filter (fun ctx => portUses ctx.diagram)
    (fun _ use => decide (1 < use.2.length)) (fun ctx use => sharedPort ctx use.1.1 use.1.2 use.2)
    _ (portUses_renamed hr ctx.diagram) (fun use => ?_) fun use => ?_
  · rw [Prod.map_snd, List.length_map]
  · change Outline.mk _ _ _ _ (some (edgeIds (use.2.map (Connection.renamed r)))) = _
    rw [edgeIds_renamed]
    rfl

theorem drivers_renamed (edges : List Connection) : drivers (edges.map (Connection.renamed r)) =
    (drivers edges).map (Prod.map r (Connection.renamed r)) := by
  rw [drivers, groupBy_map Connection.source Connection.source hr fun _ => rfl,
    List.filterMap_map, drivers, List.map_filterMap]
  refine List.filterMap_congr fun group _ => ?_
  simp only [Function.comp_apply, List.head?_map, Option.map_map]
  rfl

theorem drivenPorts_renamed (d : Diagram) : drivenPorts (d.renamed r) =
    (drivenPorts d).map (Prod.map (Prod.map r id) (List.map (Connection.renamed r))) := by
  have hdriven : (d.renamed r).edges.filter (fun e => (d.renamed r).hasNode e.target) =
      (d.edges.filter fun e => d.hasNode e.target).map (Connection.renamed r) := by
    change (d.edges.map (Connection.renamed r)).filter _ = _
    rw [List.filter_map]
    refine congrArg _ (List.filter_congr fun e _ => ?_)
    exact Diagram.hasNode_renamed hr e.target
  rw [drivenPorts, hdriven,
    groupBy_map drivenPort drivenPort (hr.prodMap Function.injective_id) fun _ => rfl, drivenPorts]
  rfl

theorem outline_contendedPort_renamed (node port : String) (edges : List Connection) :
    (contendedPort (ctx.renamed r) (r node) port (edges.map (Connection.renamed r))).outline =
      (contendedPort ctx node port edges).outline.renamed r := by
  have hsources : (drivers (edges.map (Connection.renamed r))).map (·.1) =
      ((drivers edges).map (·.1)).map r := by
    rw [drivers_renamed hr, List.map_map, List.map_map]
    rfl
  simp only [contendedPort, Violation.outline, Rule.violation, Rule.violationAt, hsources,
    Context.find?_renamed hr, edgeIds_renamed]
  rfl

theorem renames_multipleMasters (h : ctx.IgnoresIds) :
    (ofPure multipleMasters).Renames r ctx := by
  refine renames_filter (fun ctx => drivenPorts ctx.diagram)
    (fun ctx driven => isContended ctx driven.1.1 driven.2)
    (fun ctx driven => contendedPort ctx driven.1.1 driven.1.2 driven.2)
    _ (drivenPorts_renamed hr ctx.diagram) (fun ⟨⟨node, port⟩, edges⟩ => ?_)
    fun ⟨⟨node, port⟩, edges⟩ => outline_contendedPort_renamed hr node port edges
  have hcount : (drivers (edges.map (Connection.renamed r))).length = (drivers edges).length := by
    rw [drivers_renamed hr, List.length_map]
  exact congrArg₂ (fun (count : ℕ) passive => decide (1 < count) && passive) hcount
    (Context.isPassive_renamed hr h node)

end Graph

end Checks

end DesignRules
