import DesignRules.Checks.Topology
import DesignRules.Proofs.Checks.Connections
import DesignRules.Proofs.Checks.Ports

/-! # Locality

What a check says about a component or a connection depends only on what is known about
the components named there. Two contexts that agree at these say the same.
-/

namespace DesignRules

/-- The same options, settings, way to recognise an arbiter and engine for patterns. -/
structure Context.SameTerms (ctx ctx' : Context) : Prop where
  options : ctx.options = ctx'.options
  settings : ctx.settings = ctx'.settings
  arbiter : ctx.arbiter = ctx'.arbiter
  patterns : ctx.patterns = ctx'.patterns

/-- An existing component that must not join several masters. -/
def Context.isPassive (ctx : Context) (id : String) : Bool :=
  (ctx.diagram.node? id).any fun n => !ctx.isArbiter n

/-- The same is known about a component. -/
structure Context.AgreeAt (ctx ctx' : Context) (id : String) : Prop where
  hasNode : ctx.diagram.hasNode id = ctx'.diagram.hasNode id
  label : ctx.label id = ctx'.label id
  interfaces : ctx.interfaces id = ctx'.interfaces id
  isPassive : ctx.isPassive id = ctx'.isPassive id

/-- The same is known about a component and about the connections that touch it. -/
structure Context.AgreeAround (ctx ctx' : Context) (id : String) : Prop extends
    ctx.AgreeAt ctx' id where
  outDegree : ctx.diagram.outDegree id = ctx'.diagram.outDegree id
  inDegree : ctx.diagram.inDegree id = ctx'.diagram.inDegree id
  connected : ∀ port, (Checks.connectedPorts ctx).contains (id, port) =
    (Checks.connectedPorts ctx').contains (id, port)

/-- The same analysis of another diagram. -/
def Context.on (ctx : Context) (d : Diagram) : Context :=
  { ctx with design := ⟨d, ctx.design.library⟩ }

/-- An analysis without a library, with the usual options and settings. -/
def Context.usual : Context := ⟨⟨⟨[], []⟩, []⟩, ⟨false⟩, Settings.default, none⟩

/-- The same node up to the interfaces that are given with it. -/
def Node.Alike (n n' : Node) : Prop := ∃ interfaces, n' = { n with interfaces := interfaces }

/-! ## What is known about a component -/

namespace Resolver

variable {r r' : Resolver} {id id' : String} (h : r.interfaces id = r'.interfaces id')

include h

theorem find?_congr (interface : Option String) : r.find? id interface = r'.find? id' interface := by
  rw [find?, h, ← find?]

theorem interfaceName_congr (interface : String) :
    r.interfaceName id interface = r'.interfaceName id' interface := by
  rw [interfaceName, find?_congr h, ← interfaceName]

theorem pick?_congr (handle : Option String) (direction : Direction) :
    r.pick? id handle direction = r'.pick? id' handle direction := by
  simp only [pick?, h, find?_congr h]

end Resolver

namespace Context.AgreeAt

variable {ctx ctx' : Context} {id : String} {e : Connection}

section One

variable (h : ctx.AgreeAt ctx' id)

include h

theorem find? (interface : Option String) :
    ctx.resolver.find? id interface = ctx'.resolver.find? id interface :=
  Resolver.find?_congr h.interfaces interface

theorem interfaceName (interface : String) :
    ctx.resolver.interfaceName id interface = ctx'.resolver.interfaceName id interface :=
  Resolver.interfaceName_congr h.interfaces interface

theorem location (interface : Option String) :
    ctx.resolver.location id interface = ctx'.resolver.location id interface := by
  have hlabel : ctx.resolver.diagram.label id = ctx'.resolver.diagram.label id := h.label
  simp only [Resolver.location, hlabel, h.interfaceName]

theorem pick? (handle : Option String) (direction : Direction) :
    ctx.resolver.pick? id handle direction = ctx'.resolver.pick? id handle direction :=
  Resolver.pick?_congr h.interfaces handle direction

theorem isGap : ctx.design.isGap id = ctx'.design.isGap id :=
  congrArg₂ (· && ·) h.hasNode (congrArg List.isEmpty h.interfaces)

end One

section Ends

variable (hs : ctx.AgreeAt ctx' e.source) (ht : ctx.AgreeAt ctx' e.target)

include hs ht

theorem isInner : ctx.diagram.isInner e = ctx'.diagram.isInner e := by
  rw [Diagram.isInner, hs.hasNode, ht.hasNode, ← Diagram.isInner]

theorem connectionLocation :
    ctx.resolver.connectionLocation e = ctx'.resolver.connectionLocation e := by
  rw [Resolver.connectionLocation, hs.location, ht.location, ← Resolver.connectionLocation]

theorem resolveEdge : ctx.resolver.resolveEdge e = ctx'.resolver.resolveEdge e := by
  have hinner : ctx.resolver.diagram.isInner e = ctx'.resolver.diagram.isInner e := isInner hs ht
  simp only [Resolver.resolveEdge, Resolver.sourceInterface?, Resolver.targetInterface?, hinner,
    hs.pick?, ht.pick?]

theorem ends? : ctx.resolver.ends? e = ctx'.resolver.ends? e := by
  rw [Resolver.ends?, resolveEdge hs ht, ← Resolver.ends?]

theorem endFinding : ctx.endFinding e = ctx'.endFinding e := by
  funext source target aspect sourceValue targetValue description suggestion
  simp only [Context.endFinding, Context.endDetails, hs.label, ht.label,
    connectionLocation hs ht]

theorem touchedPorts : Checks.touchedPorts ctx e = Checks.touchedPorts ctx' e := by
  rw [Checks.touchedPorts, resolveEdge hs ht, ← Checks.touchedPorts]

end Ends

end Context.AgreeAt

/-- All that is known about a component comes from its first entry. -/
theorem Context.agreeAt_on (ctx : Context) {d d' : Diagram} {id : String}
    (h : d.node? id = d'.node? id) : (ctx.on d).AgreeAt (ctx.on d') id where
  hasNode := by
    change d.hasNode id = d'.hasNode id
    rw [Diagram.hasNode_eq_isSome, Diagram.hasNode_eq_isSome, h]
  label := by
    change d.label id = d'.label id
    rw [Diagram.label, h, ← Diagram.label]
  interfaces := by
    change Design.interfaces ⟨d, _⟩ id = Design.interfaces ⟨d', _⟩ id
    unfold Design.interfaces
    dsimp only
    rw [h]
    rfl
  isPassive := by
    change (d.node? id).any _ = (d'.node? id).any _
    rw [h]
    rfl

namespace Checks

variable {ctx ctx' : Context} {node port : String} {edges : List Connection} {path : List String}

theorem touches_of_mem_touchedPorts {e : Connection} (h : (node, port) ∈ touchedPorts ctx e) :
    Diagram.touches node e := by
  rw [touchedPorts, List.mem_append] at h
  rw [Diagram.touches_iff]
  rcases h with h | h
  · obtain ⟨_, -, hport⟩ := Option.map_eq_some_iff.mp (Option.mem_toList.mp h)
    exact .inl (congrArg Prod.fst hport)
  · obtain ⟨_, -, hport⟩ := Option.map_eq_some_iff.mp (Option.mem_toList.mp h)
    exact .inr (congrArg Prod.fst hport)

/-- The connected ports of a component follow from the connections that touch it. -/
theorem contains_connectedPorts_congr
    (hedges : ∀ e, Diagram.touches node e → (e ∈ ctx.diagram.edges ↔ e ∈ ctx'.diagram.edges))
    (hends : ∀ e ∈ ctx.diagram.edges, ctx.AgreeAt ctx' e.source ∧ ctx.AgreeAt ctx' e.target) :
    (connectedPorts ctx).contains (node, port) = (connectedPorts ctx').contains (node, port) := by
  rw [Bool.eq_iff_iff]
  simp only [connectedPorts, List.contains_iff_mem, List.mem_flatMap]
  constructor
  · rintro ⟨e, he, hport⟩
    rw [(hends e he).1.touchedPorts (hends e he).2] at hport
    exact ⟨e, (hedges e (touches_of_mem_touchedPorts hport)).mp he, hport⟩
  · rintro ⟨e, he, hport⟩
    have he := (hedges e (touches_of_mem_touchedPorts hport)).mpr he
    exact ⟨e, he, (hends e he).1.touchedPorts (hends e he).2 ▸ hport⟩

theorem sharedPort_congr (h : ctx.AgreeAt ctx' node) :
    sharedPort ctx node port edges = sharedPort ctx' node port edges := by
  simp only [sharedPort, h.label, h.interfaceName]

theorem isContended_congr (h : ctx.AgreeAt ctx' node) :
    isContended ctx node edges = isContended ctx' node edges :=
  congrArg (decide (1 < (drivers edges).length) && ·) h.isPassive

theorem exists_source_of_mem_drivers {driver : String × Connection} (h : driver ∈ drivers edges) :
    ∃ e ∈ edges, e.source = driver.1 := by
  have hmem := List.mem_map_of_mem (f := (·.1)) h
  rw [map_drivers, List.mem_eraseDups, List.mem_map] at hmem
  exact hmem

theorem contendedPort_congr (h : ctx.AgreeAt ctx' node)
    (hedges : ∀ e ∈ edges, ctx.AgreeAt ctx' e.source) :
    contendedPort ctx node port edges = contendedPort ctx' node port edges := by
  have hdriver : ∀ driver ∈ drivers edges, ctx.AgreeAt ctx' driver.1 := by
    intro driver hd
    obtain ⟨e, he, hsource⟩ := exists_source_of_mem_drivers hd
    exact hsource ▸ hedges e he
  have hpath : ∀ driver ∈ drivers edges, masterPath ctx driver = masterPath ctx' driver :=
    fun driver hd => (hdriver driver hd).location _
  have hdetails : (drivers edges).map (masterDetails ctx) =
      (drivers edges).map (masterDetails ctx') := by
    refine List.map_congr_left fun driver hd => ?_
    simp only [masterDetails, hpath driver hd, (hdriver driver hd).label,
      (hdriver driver hd).interfaceName]
  have hconnections : ∀ text : String, (drivers edges).map (fun m => masterPath ctx m ++ text) =
      (drivers edges).map fun m => masterPath ctx' m ++ text :=
    fun text => List.map_congr_left fun driver hd => by rw [hpath driver hd]
  simp only [contendedPort, h.location, h.find?, h.label, hdetails, String.append_assoc,
    hconnections]

theorem hasMaster_congr (h : ctx.AgreeAt ctx' node) : hasMaster ctx node = hasMaster ctx' node := by
  rw [hasMaster, h.interfaces, ← hasMaster]

theorem longPath_congr (h : ∀ id ∈ path, ctx.label id = ctx'.label id) :
    longPath ctx path = longPath ctx' path := by
  simp only [longPath, List.map_congr_left h]

/-- What is reported about a circuit. -/
def circuitReport (ctx : Context) (circuit : List String) : Violation :=
  Rule.circularDependency.violation
    { location := " → ".intercalate (circuitLabels ctx circuit)
      description := "Circular dependency detected in connection path"
      suggestion := "Remove one connection to break the cycle or restructure the design"
      components := some circuit
      details := some
        [("cyclePath", .texts (circuitLabels ctx circuit)),
         ("cycleLength", .int circuit.length)] }

theorem circularDependency_eq (ctx : Context) :
    circularDependency ctx = ctx.diagram.circuits.map (circuitReport ctx) :=
  rfl

theorem circuitReport_congr (h : ∀ id ∈ path, ctx.label id = ctx'.label id) :
    circuitReport ctx path = circuitReport ctx' path := by
  have hlabels : circuitLabels ctx path = circuitLabels ctx' path := by
    refine List.map_congr_left fun id hid => h id ?_
    rcases List.mem_append.mp hid with hid | hid
    · exact hid
    · exact List.mem_of_mem_take hid
  simp only [circuitReport, hlabels]

theorem circularDependency_congr (hcircuits : ctx.diagram.circuits = ctx'.diagram.circuits)
    (h : ∀ id, ctx.AgreeAt ctx' id) : circularDependency ctx = circularDependency ctx' := by
  rw [circularDependency_eq, circularDependency_eq, hcircuits]
  exact List.map_congr_left fun _ _ => circuitReport_congr fun id _ => (h id).label

theorem longPaths_congr (hids : ctx.diagram.ids = ctx'.diagram.ids)
    (hpaths : ctx.diagram.terminalPaths = ctx'.diagram.terminalPaths)
    (hsettings : ctx.settings = ctx'.settings) (h : ∀ id, ctx.AgreeAt ctx' id) :
    longPaths ctx = longPaths ctx' := by
  have hmaster : hasMaster ctx = hasMaster ctx' := funext fun id => hasMaster_congr (h id)
  rw [longPaths, longPaths, hids, hmaster, hpaths, hsettings]
  refine List.flatMap_congr fun id _ => ?_
  exact List.map_congr_left fun _ _ => longPath_congr fun id _ => (h id).label

end Checks

end DesignRules
