import DesignRules.Proofs.Analysis.Repeats
import DesignRules.Proofs.Graph.Loops
import DesignRules.Proofs.Resolution.Session

/-! # Answers from first entries

Every question about a graph and every query about interfaces is answered from the first entry of
each identifier. Without the other entries the nodes have other positions, but they stand in the
same order, and no answer changes.
-/

namespace DesignRules

/-! ## The graph -/

namespace Diagram

/-- The first entry of a node stands before that of another. -/
def Precedes (d : Diagram) (a b : String) : Prop :=
  ∃ i ∈ d.indexOf? a, ∃ j ∈ d.indexOf? b, i < j

/-- Two diagrams give the same answers to all questions about their graphs. -/
structure AnswersAlike (d d' : Diagram) : Prop where
  hasNode : d.hasNode = d'.hasNode
  node? : d.node? = d'.node?
  label : d.label = d'.label
  successors : d.successors = d'.successors
  outDegree : d.outDegree = d'.outDegree
  inDegree : d.inDegree = d'.inDegree
  isolates : d.isolates = d'.isolates
  isConnected : d.isConnected = d'.isConnected
  circuits : d.circuits = d'.circuits
  arranged : ∀ loops, d.Enumerates loops →
    d'.Enumerates loops ∧ d.arranged loops = d'.arranged loops
  terminalPaths : d.terminalPaths = d'.terminalPaths
  indexed : ∀ id, (d.indexOf? id).isSome ↔ (d'.indexOf? id).isSome
  precedes : ∀ a b, d.Precedes a b ↔ d'.Precedes a b

variable {d d' : Diagram} {a b : String}

theorem hasNode_eq_isSome_indexOf? (d : Diagram) (id : String) :
    d.hasNode id = (d.indexOf? id).isSome :=
  List.findIdx?_isSome.symm

theorem indexOf?_eq_some_iff {i : ℕ} : d.indexOf? a = some i ↔ a ∈ d.ids ∧ d.position a = i := by
  rw [mem_ids_iff, hasNode_eq_isSome_indexOf?, position]
  cases d.indexOf? a <;> simp

/-- The order of the first entries is the order of the nodes. -/
theorem precedes_iff : d.Precedes a b ↔ a ∈ d.ids ∧ b ∈ d.ids ∧ d.ids.idxOf a < d.ids.idxOf b := by
  simp only [Precedes, Option.mem_def, indexOf?_eq_some_iff]
  constructor
  · rintro ⟨_, ⟨ha, rfl⟩, _, ⟨hb, rfl⟩, hlt⟩
    exact ⟨ha, hb, (idxOf_lt_idxOf_iff pairwise_position_ids ha hb).mpr hlt⟩
  · rintro ⟨ha, hb, hlt⟩
    exact ⟨_, ⟨ha, rfl⟩, _, ⟨hb, rfl⟩, (idxOf_lt_idxOf_iff pairwise_position_ids ha hb).mp hlt⟩

/-- Answers follow from the edges, the nodes in their order and the first entry of each. -/
theorem answersAlike (hedges : d.edges = d'.edges) (hids : d.ids = d'.ids)
    (hnode : d.node? = d'.node?) : d.AnswersAlike d' := by
  have hresembles : (Context.usual.on d).Resembles (Context.usual.on d') :=
    ⟨⟨rfl, rfl, rfl, rfl⟩, hedges, hids, fun id => Context.usual.agreeAt_on (congrFun hnode id)⟩
  have hout : d.outDegree = d'.outDegree := by
    funext id
    rw [outDegree, hedges, ← outDegree]
  have hin : d.inDegree = d'.inDegree := by
    funext id
    rw [inDegree, hedges, ← inDegree]
  have hconnected : d.isConnected = d'.isConnected := by
    funext id
    rw [isConnected, hout, hin, ← isConnected]
  have htargets : d.targets = d'.targets := hresembles.targets
  have hjoins : ∀ a b, d.Joins a b ↔ d'.Joins a b := fun a b => by
    rw [← mem_targets_iff, htargets, mem_targets_iff]
  have hcircuits : d.circuits = d'.circuits := circuits_congr hids hjoins
  refine ⟨?_, hnode, ?_, ?_, hout, hin, ?_, hconnected, hcircuits, fun loops hloops => ?_,
    hresembles.terminalPaths, fun id => ?_, fun a b => ?_⟩
  · exact funext fun id => (hresembles.agreeAt id).hasNode
  · exact funext fun id => (hresembles.agreeAt id).label
  · funext id
    rw [successors, htargets, ← successors]
  · rw [isolates, hids, hconnected, ← isolates]
  · have hloops' : d'.Enumerates loops :=
      ⟨fun c hc => (isLoop_congr hjoins).mp (hloops.isLoop c hc),
        fun c hc => hloops.once c ((isLoop_congr hjoins).mpr hc)⟩
    exact ⟨hloops', by rw [hloops.arranged_eq, hloops'.arranged_eq, hcircuits]⟩
  · rw [← hasNode_eq_isSome_indexOf?, ← hasNode_eq_isSome_indexOf?, ← mem_ids_iff, hids,
      mem_ids_iff]
  · rw [precedes_iff, precedes_iff, hids]

end Diagram

/-! ## The resolver -/

/-- The design without the entries that repeat an identifier. -/
def Design.unrepeated (design : Design) : Design := ⟨design.diagram.unrepeated, design.library⟩

namespace Context.Resembles

variable {ctx ctx' : Context} (h : ctx.Resembles ctx')

include h

theorem answer (q : Query) : ctx.resolver.answer q = ctx'.resolver.answer q := by
  cases q with
  | interfaces id => exact congrArg Answer.interfaces (h.agreeAt id).interfaces
  | find id interface => exact congrArg Answer.interface ((h.agreeAt id).find? interface)
  | interfaceName id interface =>
    exact congrArg Answer.text ((h.agreeAt id).interfaceName interface)
  | location id interface => exact congrArg Answer.text ((h.agreeAt id).location interface)
  | connectionLocation e =>
    exact congrArg Answer.text (AgreeAt.connectionLocation (h.agreeAt _) (h.agreeAt _))
  | resolveEdge e =>
    have hends := AgreeAt.resolveEdge (h.agreeAt e.source) (h.agreeAt e.target)
    simp only [Resolver.answer, hends]
  | resolveAll => rfl

/-- A query needs the same nodes for the first time. -/
theorem needs (q : Query) :
    (q.needs ctx.diagram).eraseDups = (q.needs ctx'.diagram).eraseDups := by
  cases q with
  | interfaces | find | interfaceName | location | connectionLocation => rfl
  | resolveEdge e =>
    have hinner := AgreeAt.isInner (h.agreeAt e.source) (h.agreeAt e.target)
    simp only [Query.needs, hinner]
  | resolveAll => exact h.ids

end Context.Resembles

namespace Session

/-- The nodes that a history needs, each once, in the order in which they are first needed. -/
theorem eraseDups_flatMap_needs {d d' : Diagram}
    (h : ∀ q : Query, (q.needs d).eraseDups = (q.needs d').eraseDups) (history : List Query) :
    (history.flatMap (Query.needs d)).eraseDups = (history.flatMap (Query.needs d')).eraseDups := by
  induction history using List.reverseRecOn with
  | nil => rfl
  | append_singleton history q ih =>
    rw [List.flatMap_append, List.flatMap_append, List.flatMap_singleton, List.flatMap_singleton]
    exact eraseDups_append_congr ih (h q)

end Session

/-- Without the entries that repeat an identifier all questions about the graph have the same
answers, although the positions of the nodes are other ones, and after any history a session with
the resolver answers every query the same and lists the same nodes as missing. -/
theorem Design.unrepeated_answersAlike (design : Design) :
    design.diagram.AnswersAlike design.unrepeated.diagram ∧
    ∀ history,
      (∀ q, ((Session.after design history).ask design q).2 =
        ((Session.after design.unrepeated history).ask design.unrepeated q).2) ∧
      (Session.after design history).missing =
        (Session.after design.unrepeated history).missing := by
  have hresembles := Context.resembles_unrepeated ⟨design, .default, .default, none⟩
  refine ⟨Diagram.answersAlike rfl design.diagram.ids_unrepeated.symm
    (funext fun id => (design.diagram.node?_unrepeated id).symm), fun history => ?_⟩
  have h := Session.hasSeen_after design history
  have h' := Session.hasSeen_after design.unrepeated history
  refine ⟨fun q => ?_, ?_⟩
  · rw [h.answer_ask, h'.answer_ask]
    exact hresembles.answer q
  · have hneeded : (history.flatMap (Query.needs design.diagram)).eraseDups =
        (history.flatMap (Query.needs design.unrepeated.diagram)).eraseDups :=
      Session.eraseDups_flatMap_needs hresembles.needs history
    rw [h.missing, h'.missing, hneeded]
    exact List.filter_congr fun id _ => (hresembles.agreeAt id).isGap

end DesignRules
