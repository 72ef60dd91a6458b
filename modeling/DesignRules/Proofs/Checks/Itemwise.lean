import DesignRules.Proofs.Analysis.Findings
import DesignRules.Proofs.Checks.AddressMap
import DesignRules.Proofs.Checks.Wirewise
import DesignRules.Proofs.Listing

/-! # Checks of single connections and single components

Most checks look at the connections one by one, or at the node entries one by one, and at
each of them only as far as the components named there and the connections that touch
them.
-/

namespace DesignRules

open Outcome

/-- A check that looks at each connection by itself and at the components at its ends. -/
def Check.IsEdgewise (check : Check) : Prop :=
  ∃ judge : Context → Connection → Except CheckFailure (List Violation),
    (∀ ctx, check ctx = gather (judge ctx) ctx.diagram.edges) ∧
      ∀ ctx ctx' e, ctx.AgreeAt ctx' e.source → ctx.AgreeAt ctx' e.target →
        judge ctx e = judge ctx' e

/-- A check that looks at each node entry by itself and at the connections that touch the
component. -/
def Check.IsNodewise (check : Check) : Prop :=
  ∃ judge : Context → Node → Except CheckFailure (List Violation),
    (∀ ctx, check ctx = gather (judge ctx) ctx.diagram.nodes) ∧
      ∀ ctx ctx' n n', ctx.SameTerms ctx' → n.Alike n' → ctx.AgreeAround ctx' n.id →
        judge ctx n = judge ctx' n'

namespace Checks

open Check

/-! ## Connections -/

/-- A connection with its two interfaces, if both are known. -/
def wiresAt (ctx : Context) (e : Connection) : List (Connection × Interface × Interface) :=
  ((ctx.resolver.ends? e).map fun ends => (e, ends)).toList

theorem wired_eq (ctx : Context) : ctx.wired = ctx.diagram.edges.flatMap (wiresAt ctx) :=
  List.filterMap_eq_flatMap_toList _ _

/-- A check of wired interfaces is a check of connections. -/
theorem isEdgewise_of_isWirewise {check : Check} (h : check.IsWirewise) : check.IsEdgewise := by
  obtain ⟨judge, breach?, h⟩ := h
  refine ⟨fun ctx e => gather (judge ctx) (wiresAt ctx e), fun ctx => ?_, ?_⟩
  · rw [h.eq_gather, wired_eq, gather_flatMap]
  · intro ctx ctx' e hs ht
    simp only [wiresAt, hs.ends? ht]
    refine gather_congr fun wire hwire => ?_
    obtain ⟨ends, -, rfl⟩ := Option.map_eq_some_iff.mp (Option.mem_toList.mp hwire)
    exact h.judge_congr ctx ctx' e ends hs ht

theorem isEdgewise_endpointExistence : (ofPure endpointExistence).IsEdgewise := by
  refine ⟨fun ctx e => .ok ((if ctx.diagram.hasNode e.source then [] else [missingSource e]) ++
    (if ctx.diagram.hasNode e.target then [] else [missingTarget e])), fun ctx => ?_, ?_⟩
  · rw [gather_ok]
    rfl
  · intro ctx ctx' e hs ht
    simp only [hs.hasNode, ht.hasNode]

/-! ## Node entries -/

/-- A check that reports the entries with some property. -/
theorem isNodewise_filter {applies : Context → Node → Bool} {report : Context → Node → Violation}
    (hlocal : ∀ ctx ctx' n n', ctx.SameTerms ctx' → n.Alike n' → ctx.AgreeAround ctx' n.id →
      applies ctx n = applies ctx' n' ∧ report ctx n = report ctx' n') :
    (ofPure fun ctx =>
      (ctx.diagram.nodes.filter (applies ctx)).map (report ctx)).IsNodewise := by
  refine ⟨fun ctx n => .ok (if applies ctx n then [report ctx n] else []), fun ctx => ?_, ?_⟩
  · rw [gather_ok, ← map_filter_eq_flatMap]
    rfl
  · intro ctx ctx' n n' hterms hn h
    obtain ⟨happlies, hreport⟩ := hlocal ctx ctx' n n' hterms hn h
    simp only [happlies, hreport]

theorem isNodewise_requiredLabel : (ofPure requiredLabel).IsNodewise := by
  refine isNodewise_filter fun ctx ctx' n n' _ hn _ => ?_
  obtain ⟨_, rfl⟩ := hn
  exact ⟨rfl, rfl⟩

theorem isNodewise_isolatedComponent : (ofPure isolatedComponent).IsNodewise := by
  refine isNodewise_filter fun ctx ctx' n n' _ hn h => ?_
  obtain ⟨_, rfl⟩ := hn
  simp only [Diagram.isConnected, h.outDegree, h.inDegree, h.label, and_self]

theorem isInterconnect_eq {ctx ctx' : Context} (h : ctx.SameTerms ctx') (n : Node) :
    ctx.isInterconnect n = ctx'.isInterconnect n := by
  simp only [Context.isInterconnect, Context.inCategories, h.settings]

theorem isNodewise_interconnectFanout : (ofPure interconnectFanout).IsNodewise := by
  refine isNodewise_filter fun ctx ctx' n n' hterms hn h => ?_
  obtain ⟨_, rfl⟩ := hn
  simp only [isCrowded, isInterconnect_eq hterms, hterms.settings, h.outDegree, h.inDegree,
    h.label]
  exact ⟨rfl, trivial⟩

/-- What is reported about the interfaces of an entry that should be connected. -/
def unconnectedAt (ctx : Context) (n : Node) : List Violation :=
  (ctx.interfaces n.id).filterMap fun i =>
    if (connectedPorts ctx).contains (n.id, i.id) ||
        (i.optional && !ctx.options.checkOptionalPorts) then none
    else unconnected? ctx n.id i

theorem unconnectedInterfaces_eq (ctx : Context) :
    unconnectedInterfaces ctx = ctx.diagram.nodes.flatMap (unconnectedAt ctx) :=
  rfl

theorem unconnectedAt_congr {ctx ctx' : Context} {n : Node} (hterms : ctx.SameTerms ctx')
    (h : ctx.AgreeAround ctx' n.id) : unconnectedAt ctx n = unconnectedAt ctx' n := by
  simp only [unconnectedAt, h.interfaces, h.connected, hterms.options, unconnected?,
    unconnectedPort, h.label, h.location]

theorem isNodewise_unconnectedInterfaces : (ofPure unconnectedInterfaces).IsNodewise := by
  refine ⟨fun ctx n => .ok (unconnectedAt ctx n), fun ctx => ?_, ?_⟩
  · rw [gather_ok, ofPure, unconnectedInterfaces_eq]
  · intro ctx ctx' n n' hterms hn h
    obtain ⟨_, rfl⟩ := hn
    exact congrArg Except.ok (unconnectedAt_congr hterms h)

/-! ## Ports -/

/-- A check that looks at every interface of every node entry by itself. -/
theorem isNodewise_of_ports {check : Check}
    (judge : Context → String × Interface → Except CheckFailure (List Violation))
    (hcheck : ∀ ctx, check ctx = gather (judge ctx) (ports ctx))
    (hlocal : ∀ ctx ctx' id i, ctx.SameTerms ctx' → ctx.AgreeAt ctx' id →
      judge ctx (id, i) = judge ctx' (id, i)) : check.IsNodewise := by
  refine ⟨fun ctx n => gather (fun i => judge ctx (n.id, i)) (ctx.interfaces n.id), fun ctx => ?_,
    ?_⟩
  · simp only [hcheck, ports, gather_flatMap, gather_map]
  · intro ctx ctx' n n' hterms hn h
    obtain ⟨_, rfl⟩ := hn
    dsimp only
    rw [h.interfaces]
    exact gather_congr fun i _ => hlocal ctx ctx' n.id i hterms h.toAgreeAt

theorem widthViolation?_eq {ctx ctx' : Context} {id : String} (hterms : ctx.SameTerms ctx')
    (h : ctx.AgreeAt ctx' id) (i : Interface) :
    widthViolation? ctx id i = widthViolation? ctx' id i := by
  have hcanonical : isCanonical ctx = isCanonical ctx' := by
    funext w
    cases w <;> simp only [isCanonical, hterms.settings]
  simp only [widthViolation?, missingWidth, invalidWidth, unusualWidth, hcanonical, portLocation,
    h.label, hterms.settings]

theorem isNodewise_dataWidths : Check.IsNodewise dataWidths := by
  refine isNodewise_of_ports (fun ctx port =>
    (widthViolation? ctx port.1 port.2).map Option.toList) (fun ctx => ?_) ?_
  · exact map_filterMap_mapM _ _
  · intro ctx ctx' id i hterms h
    simp only [widthViolation?_eq hterms h]

/-- The check of interface names under a pattern that can be compiled. -/
def namingUnder (isName : String → Bool) : Check := fun ctx =>
  .ok (((ports ctx).filter fun (_, i) => !isName i.name).map fun (node, i) =>
    unconventionalName ctx node i)

theorem isNodewise_namingUnder (isName : String → Bool) : (namingUnder isName).IsNodewise := by
  refine isNodewise_of_ports (fun ctx port =>
    .ok (if !isName port.2.name then [unconventionalName ctx port.1 port.2] else []))
    (fun ctx => ?_) ?_
  · rw [gather_ok, ← map_filter_eq_flatMap]
    rfl
  · intro ctx ctx' id i _ h
    simp only [unconventionalName, portLocation, h.label]

/-- Under a given test the check of names always fails in the same way, or it looks at every
interface by itself. -/
theorem interfaceNaming_eq_or (test : Except Pattern.Fault (String → Bool)) :
    (∃ failure, ∀ ctx : Context, nameTest ctx = test → interfaceNaming ctx = .error failure) ∨
      ∃ check : Check, check.IsNodewise ∧
        ∀ ctx : Context, nameTest ctx = test → interfaceNaming ctx = check ctx := by
  cases test with
  | error fault =>
    refine .inl ⟨patternFailure fault, fun ctx h => ?_⟩
    rw [interfaceNaming, h]
  | ok isName =>
    refine .inr ⟨namingUnder isName, isNodewise_namingUnder isName, fun ctx h => ?_⟩
    rw [interfaceNaming, h]
    rfl

/-! ## Addresses -/

theorem occupied_eq {ctx ctx' : Context} {n n' : Node} (hn : n.Alike n')
    (h : ctx.AgreeAt ctx' n.id) : ctx.diagram.occupied n = ctx'.diagram.occupied n' := by
  obtain ⟨_, rfl⟩ := hn
  have hlabel : ctx.diagram.label n.id = ctx'.diagram.label n.id := h.label
  simp only [Diagram.occupied, hlabel]
  rfl

theorem occupied_on {ctx : Context} {d d' : Diagram} {n : Node}
    (h : (ctx.on d).AgreeAt (ctx.on d') n.id) : d.occupied n = d'.occupied n :=
  @occupied_eq (ctx.on d) (ctx.on d') n n ⟨n.interfaces, rfl⟩ h

/-- What is reported about the range of an entry, if it has one. -/
def ofRange (report : AddressRange → List Violation) :
    Occupied → Except CheckFailure (List Violation)
  | .nothing => .ok []
  | .range r => .ok (report r)
  | .oversized => .error .oversizedNumber

theorem map_rangesOf (report : AddressRange → List Violation) (os : List Occupied) :
    (rangesOf os).map (List.flatMap report) = gather (ofRange report) os := by
  induction os with
  | nil => rfl
  | cons o os ih =>
    rw [gather_cons, ← ih]
    cases o with
    | oversized => rfl
    | nothing | range r =>
      rw [rangesOf]
      cases rangesOf os <;> rfl

/-- A check that reports about every address range by itself. -/
theorem isNodewise_of_ranges {check : Check} (report : Settings → AddressRange → List Violation)
    (hcheck : ∀ ctx, check ctx = (addressRanges ctx).map (List.flatMap (report ctx.settings))) :
    check.IsNodewise := by
  refine ⟨fun ctx n => ofRange (report ctx.settings) (ctx.diagram.occupied n), fun ctx => ?_, ?_⟩
  · rw [hcheck, addressRanges, map_rangesOf, gather_map]
  · intro ctx ctx' n n' hterms hn h
    simp only [occupied_eq hn h.toAgreeAt, hterms.settings]

theorem isNodewise_addressAlignment : Check.IsNodewise addressAlignment := by
  refine isNodewise_of_ranges (fun _ r =>
    if r.base % r.size != 0 then [misaligned r] else []) fun ctx => ?_
  simp only [addressAlignment, map_filter_eq_flatMap]

theorem isNodewise_reservedAddress : Check.IsNodewise reservedAddress :=
  isNodewise_of_ranges (fun settings r => (settings.reservedRanges.filter fun reserved =>
    r.overlaps reserved.first reserved.last).map (reservedUse r)) fun _ => rfl

end Checks

namespace Analysis

open Check Checks

variable {p : Check → Prop}

/-- What holds of all checks of wired interfaces or single components holds of every check once
it is shown of the eight others. -/
theorem forall_mem_checks_of_isWirewise (hwires : ∀ check : Check, check.IsWirewise → p check)
    (hends : p (ofPure endpointExistence)) (hnodes : ∀ check : Check, check.IsNodewise → p check)
    (hports : p (ofPure portUniqueness)) (hmasters : p (ofPure multipleMasters))
    (hoverlap : p addressOverlap) (hcircuits : p (ofPure circularDependency))
    (hpaths : p (ofPure longPaths)) (hlabels : p (ofPure uniqueLabels))
    (hnaming : p interfaceNaming) : ∀ check ∈ checks, p check := by
  simp only [checks_eq, List.forall_mem_cons, List.not_mem_nil, false_imp_iff, implies_true,
    and_true]
  exact ⟨hports, hends, hwires _ isWirewise_roleMatching,
    hwires _ isWirewise_busTypeMatching, hmasters, hnodes _ isNodewise_unconnectedInterfaces,
    hwires _ isWirewise_dataWidthMatching, hwires _ isWirewise_idWidthCompatibility,
    hwires _ isWirewise_addrWidthConsistency, hwires _ isWirewise_clockCompatibility,
    hoverlap, hnodes _ isNodewise_addressAlignment, hnodes _ isNodewise_reservedAddress,
    hcircuits, hnodes _ isNodewise_isolatedComponent, hnodes _ isNodewise_interconnectFanout,
    hwires _ isWirewise_clockDomainCrossing, hpaths, hnodes _ isNodewise_requiredLabel,
    hnodes _ isNodewise_dataWidths, hlabels, hnaming⟩

/-- What holds of all checks of single connections or components holds of every check once
it is shown of the seven others. -/
theorem forall_mem_checks (hedges : ∀ check : Check, check.IsEdgewise → p check)
    (hnodes : ∀ check : Check, check.IsNodewise → p check)
    (hports : p (ofPure portUniqueness)) (hmasters : p (ofPure multipleMasters))
    (hoverlap : p addressOverlap) (hcircuits : p (ofPure circularDependency))
    (hpaths : p (ofPure longPaths)) (hlabels : p (ofPure uniqueLabels))
    (hnaming : p interfaceNaming) : ∀ check ∈ checks, p check :=
  forall_mem_checks_of_isWirewise (fun _ hcheck => hedges _ (isEdgewise_of_isWirewise hcheck))
    (hedges _ isEdgewise_endpointExistence) hnodes hports hmasters hoverlap hcircuits hpaths
    hlabels hnaming

end Analysis

end DesignRules
