import DesignRules.Proofs.Analysis.Gaps
import DesignRules.Resolution.Session

/-! # Sessions answer like the design

A session remembers what it has looked up, and its answers are those of a session that begins
with the query. It lists each node without interfaces once, when a query first needs it.
-/

namespace DesignRules

/-! ## What an answer reads -/

namespace Resolver

variable {d : Diagram} {f g : String → List Interface} {id : String} {interface : Option String}
  {e : Connection}

theorem location_congr (h : ∀ n ∈ Query.locationNeeds id interface, f n = g n) :
    location ⟨d, f⟩ id interface = location ⟨d, g⟩ id interface := by
  unfold location
  cases hfilled : filled interface with
  | none => rfl
  | some interface =>
    have hid : f id = g id := h id (by simp [Query.locationNeeds, hfilled])
    have hname : interfaceName ⟨d, f⟩ id interface = interfaceName ⟨d, g⟩ id interface :=
      interfaceName_congr hid interface
    simp only [hname]

theorem resolveEdge_congr (h : d.isInner e → f e.source = g e.source ∧ f e.target = g e.target) :
    resolveEdge ⟨d, f⟩ e = resolveEdge ⟨d, g⟩ e := by
  unfold resolveEdge
  split
  case isTrue hinner =>
    obtain ⟨hs, ht⟩ := h hinner
    exact congrArg₂ Prod.mk (pick?_congr hs _ _) (pick?_congr ht _ _)
  case isFalse => rfl

/-- An answer follows from the interfaces of the nodes that the query needs. -/
theorem answer_congr {q : Query} (h : ∀ n ∈ q.needs d, f n = g n) :
    answer ⟨d, f⟩ q = answer ⟨d, g⟩ q := by
  cases q with
  | interfaces id => exact congrArg Answer.interfaces (h id (List.mem_singleton_self id))
  | find id interface =>
    cases interface with
    | none => rfl
    | some interface =>
      exact congrArg Answer.interface (find?_congr (h id (List.mem_singleton_self id)) _)
  | interfaceName id interface =>
    exact congrArg Answer.text (interfaceName_congr (h id (List.mem_singleton_self id)) interface)
  | location id interface => exact congrArg Answer.text (location_congr h)
  | connectionLocation e =>
    obtain ⟨hs, ht⟩ := List.forall_mem_append.mp h
    simp only [answer, connectionLocation, location_congr hs, location_congr ht]
  | resolveEdge e =>
    have hends : resolveEdge ⟨d, f⟩ e = resolveEdge ⟨d, g⟩ e := by
      refine resolveEdge_congr fun hinner => ?_
      simpa [Query.needs, hinner] using h
    simp only [answer, hends]
  | resolveAll => rfl

end Resolver

namespace Session

/-- The session after a history of queries. -/
def after (design : Design) (history : List Query) : Session :=
  history.foldl (fun s q => (s.ask design q).1) empty

/-- The session has looked up these nodes, in this order, and no others. -/
structure HasSeen (design : Design) (s : Session) (needed : List String) : Prop where
  lookup : ∀ id, s.known.lookup id = if id ∈ needed then some (design.interfaces id) else none
  missing : s.missing = needed.eraseDups.filter design.isGap

variable {design : Design} {s : Session} {needed : List String}

theorem hasSeen_empty : empty.HasSeen design [] := ⟨fun _ => rfl, rfl⟩

namespace HasSeen

theorem load (h : s.HasSeen design needed) (id : String) :
    (s.load design id).HasSeen design (needed ++ [id]) := by
  have hlookup := h.lookup id
  by_cases hid : id ∈ needed
  · rw [if_pos hid] at hlookup
    have hkept : s.load design id = s := by rw [Session.load, hlookup]
    rw [hkept]
    refine ⟨fun other => ?_, ?_⟩
    · rw [h.lookup other]
      grind
    · rw [eraseDups_append_singleton, if_pos hid, h.missing]
  · rw [if_neg hid] at hlookup
    have hadded : s.load design id = ⟨(id, design.interfaces id) :: s.known,
        if design.isGap id then s.missing ++ [id] else s.missing⟩ := by
      rw [Session.load, hlookup]
    rw [hadded]
    refine ⟨fun other => ?_, ?_⟩
    · rw [List.lookup_cons, h.lookup other]
      grind
    · rw [eraseDups_append_singleton, if_neg hid, List.filter_append, h.missing]
      cases hgap : design.isGap id <;> simp [hgap]

theorem foldl_load (h : s.HasSeen design needed) (ids : List String) :
    (ids.foldl (Session.load design) s).HasSeen design (needed ++ ids) := by
  induction ids generalizing s needed with
  | nil =>
    rw [List.append_nil]
    exact h
  | cons id ids ih =>
    have hids := ih (h.load id)
    rwa [List.append_assoc] at hids

theorem ask (h : s.HasSeen design needed) (q : Query) :
    (s.ask design q).1.HasSeen design (needed ++ q.needs design.diagram) :=
  h.foldl_load _

/-- What was looked up before does not show in an answer. -/
theorem answer_ask (h : s.HasSeen design needed) (q : Query) :
    (s.ask design q).2 = design.resolver.answer q := by
  refine Resolver.answer_congr fun id hid => ?_
  rw [stored, (h.foldl_load _).lookup id, if_pos (List.mem_append_right _ hid)]
  rfl

theorem nodup_missing (h : s.HasSeen design needed) : s.missing.Nodup := by
  rw [h.missing]
  exact (nodup_eraseDups needed).filter _

theorem mem_missing_iff (h : s.HasSeen design needed) {id : String} :
    id ∈ s.missing ↔ id ∈ needed ∧ design.isGap id := by
  rw [h.missing, List.mem_filter, List.mem_eraseDups]

theorem pairwise_missing (h : s.HasSeen design needed) :
    s.missing.Pairwise fun a b => needed.idxOf a < needed.idxOf b := by
  rw [h.missing]
  exact (pairwise_idxOf_eraseDups needed).filter _

end HasSeen

theorem hasSeen_after (design : Design) (history : List Query) :
    (after design history).HasSeen design (history.flatMap (Query.needs design.diagram)) := by
  induction history using List.reverseRecOn with
  | nil => exact hasSeen_empty
  | append_singleton history q ih =>
    rw [after, List.foldl_append, List.flatMap_append, List.flatMap_singleton]
    exact ih.ask q

/-- After any history a query is answered as by a new session, and by the design itself. The
session lists, each once and in the order in which they were first needed, the needed nodes
that exist and whose first entries have interfaces neither of their own nor in the library. -/
theorem ask_after (design : Design) (history : List Query) :
    (∀ q, ((after design history).ask design q).2 = (empty.ask design q).2 ∧
      ((after design history).ask design q).2 = design.resolver.answer q) ∧
    (after design history).missing.Nodup ∧
    (∀ id, id ∈ (after design history).missing ↔
      (∃ q ∈ history, id ∈ q.needs design.diagram) ∧
        ∃ n, design.diagram.node? id = some n ∧ n.interfaces = [] ∧
          ∀ c, (filled n.componentId).bind design.component? = some c → c.interfaces = []) ∧
    (after design history).missing.Pairwise fun a b =>
      (history.flatMap (Query.needs design.diagram)).idxOf a <
        (history.flatMap (Query.needs design.diagram)).idxOf b := by
  have h := hasSeen_after design history
  refine ⟨fun q => ⟨?_, h.answer_ask q⟩, h.nodup_missing, fun id => ?_, h.pairwise_missing⟩
  · rw [h.answer_ask, hasSeen_empty.answer_ask]
  · simp only [h.mem_missing_iff, List.mem_flatMap, Design.isGap_iff,
      Design.nodeInterfaces_eq_nil_iff]

end Session

end DesignRules
