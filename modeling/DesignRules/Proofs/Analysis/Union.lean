import DesignRules.Proofs.Analysis.Completion
import DesignRules.Proofs.Checks.Itemwise
import DesignRules.Proofs.Checks.Topology
import DesignRules.Proofs.Graph.Union

/-! # Analysing independent subsystems

Two diagrams without a common identifier are analysed side by side as they are by
themselves. Only addresses and labels are compared between them.
-/

namespace DesignRules

open Check Outcome

/-! ## What is known in a part -/

namespace Diagram.IsPart

variable {part d : Diagram} {id : String}

section Agreement

variable (h : part.IsPart d)

include h

theorem agreeAt (ctx : Context) (hid : id ∈ part.names) : (ctx.on part).AgreeAt (ctx.on d) id :=
  ctx.agreeAt_on (h.node? id hid)

theorem mem_edges_iff (hid : id ∈ part.names) {e : Connection} (he : touches id e) :
    e ∈ part.edges ↔ e ∈ d.edges := by
  have hmem := congrArg (e ∈ ·) (h.touching id hid)
  simpa [List.mem_filter, he] using hmem

theorem agreeAround (ctx : Context) (hid : id ∈ part.names) :
    (ctx.on part).AgreeAround (ctx.on d) id where
  toAgreeAt := h.agreeAt ctx hid
  outDegree := congrArg List.length (h.filter_source hid)
  inDegree := congrArg List.length (h.filter_target hid)
  connected := fun _ => Checks.contains_connectedPorts_congr
    (fun _ he => h.mem_edges_iff hid he)
    fun _ he => ⟨h.agreeAt ctx (source_mem_names he), h.agreeAt ctx (target_mem_names he)⟩

end Agreement

end Diagram.IsPart

/-- The check lists what it finds in the first diagram and then what it finds in the second. -/
def Check.Splits (check : Check) (ctx : Context) (d₁ d₂ : Diagram) : Prop :=
  check (ctx.on (d₁ ++ d₂)) = (· ++ ·) <$> check (ctx.on d₁) <*> check (ctx.on d₂)

namespace Check

variable {check : Check} {ctx : Context} {d₁ d₂ : Diagram}

/-- A check of the members of a list which the diagrams have one after the other. -/
theorem splits_of_gather {α : Type} (items : Diagram → List α)
    (judge : Context → α → Except CheckFailure (List Violation)) (h : d₁.Apart d₂)
    (hcheck : ∀ ctx, check ctx = gather (judge ctx) (items ctx.diagram))
    (hitems : items (d₁ ++ d₂) = items d₁ ++ items d₂)
    (hlocal : ∀ part d : Diagram, part.IsPart d → ∀ a ∈ items part,
      judge (ctx.on part) a = judge (ctx.on d) a) : check.Splits ctx d₁ d₂ := by
  have hpart : ∀ part : Diagram, part.IsPart (d₁ ++ d₂) →
      gather (judge (ctx.on (d₁ ++ d₂))) (items part) = check (ctx.on part) := by
    intro part hp
    rw [hcheck]
    exact gather_congr fun a ha => (hlocal part _ hp a ha).symm
  rw [Splits, hcheck (ctx.on (d₁ ++ d₂)), ← hpart d₁ (Diagram.isPart_left h),
    ← hpart d₂ (Diagram.isPart_right h), ← gather_append, ← hitems]
  rfl

theorem splits_of_isEdgewise (h : d₁.Apart d₂) (hcheck : check.IsEdgewise) :
    check.Splits ctx d₁ d₂ := by
  obtain ⟨judge, hjudge, hlocal⟩ := hcheck
  refine splits_of_gather _ judge h hjudge Diagram.edges_append fun part d hp e he => ?_
  exact hlocal _ _ e (hp.agreeAt ctx (Diagram.source_mem_names he))
    (hp.agreeAt ctx (Diagram.target_mem_names he))

theorem splits_of_isNodewise (h : d₁.Apart d₂) (hcheck : check.IsNodewise) :
    check.Splits ctx d₁ d₂ := by
  obtain ⟨judge, hjudge, hlocal⟩ := hcheck
  refine splits_of_gather _ judge h hjudge Diagram.nodes_append fun part d hp n hn => ?_
  exact hlocal (ctx.on part) (ctx.on d) n n ⟨rfl, rfl, rfl, rfl⟩ ⟨_, rfl⟩
    (hp.agreeAround ctx (Diagram.mem_names_of_mem_nodes hn))

end Check

namespace Checks

variable {ctx : Context} {d d₁ d₂ : Diagram} {node port : String} {edges : List Connection}

/-! ## Ports -/

theorem fst_mem_names_of_mem_references {e : Connection} {use : (String × String) × Connection}
    (he : e ∈ d.edges) (h : use ∈ references e) : use.1.1 ∈ d.names := by
  rw [references, List.mem_append] at h
  rcases h with h | h
  · obtain ⟨_, -, rfl⟩ := Option.map_eq_some_iff.mp (Option.mem_toList.mp h)
    exact Diagram.source_mem_names he
  · obtain ⟨_, -, rfl⟩ := Option.map_eq_some_iff.mp (Option.mem_toList.mp h)
    exact Diagram.target_mem_names he

theorem mem_names_of_mem_uses {use : (String × String) × Connection}
    (h : use ∈ d.edges.flatMap references) : use.1.1 ∈ d.names := by
  obtain ⟨e, he, huse⟩ := List.mem_flatMap.mp h
  exact fst_mem_names_of_mem_references he huse

theorem portUses_append (h : d₁.Apart d₂) : portUses (d₁ ++ d₂) = portUses d₁ ++ portUses d₂ := by
  rw [portUses, Diagram.edges_append, List.flatMap_append, groupBy_append, List.map_append,
    portUses, portUses]
  intro a ha b hb hab
  exact h _ (mem_names_of_mem_uses ha) (congrArg Prod.fst hab ▸ mem_names_of_mem_uses hb)

theorem mem_names_of_mem_portUses (h : ((node, port), edges) ∈ portUses d) : node ∈ d.names := by
  obtain ⟨⟨_, uses⟩, hgroup, heq⟩ := List.mem_map.mp h
  obtain ⟨hk, -⟩ := mem_groupBy_iff.mp hgroup
  obtain ⟨use, huse, rfl⟩ := List.mem_map.mp hk
  have hnode : use.1.1 = node := congrArg (·.1.1) heq
  exact hnode ▸ mem_names_of_mem_uses huse

theorem splits_portUniqueness (h : d₁.Apart d₂) :
    (ofPure portUniqueness).Splits ctx d₁ d₂ := by
  refine splits_of_gather portUses (fun ctx use => .ok (if 1 < use.2.length then
    [sharedPort ctx use.1.1 use.1.2 use.2] else [])) h (fun ctx => ?_) (portUses_append h) ?_
  · simp only [ofPure, portUniqueness, gather_ok, map_filter_eq_flatMap, decide_eq_true_eq]
  · rintro part d hp ⟨⟨node, port⟩, edges⟩ huse
    have hnode := hp.agreeAt ctx (mem_names_of_mem_portUses huse)
    simp only [sharedPort_congr hnode]

theorem drivenPorts_append (h : d₁.Apart d₂) :
    drivenPorts (d₁ ++ d₂) = drivenPorts d₁ ++ drivenPorts d₂ := by
  have hinto : ∀ part d : Diagram, part.IsPart d →
      part.edges.filter (fun e => d.hasNode e.target) =
        part.edges.filter (fun e => part.hasNode e.target) := fun part d hp =>
    List.filter_congr fun e he => (hp.hasNode (Diagram.target_mem_names he)).symm
  rw [drivenPorts, Diagram.edges_append, List.filter_append, hinto d₁ _ (Diagram.isPart_left h),
    hinto d₂ _ (Diagram.isPart_right h), groupBy_append, drivenPorts, drivenPorts]
  intro e he f hf hport
  have htarget := Diagram.target_mem_names (List.mem_of_mem_filter hf)
  exact h _ (Diagram.target_mem_names (List.mem_of_mem_filter he))
    (target_eq_of_drivenPort_eq hport ▸ htarget)

theorem mem_names_of_mem_drivenPorts (h : ((node, port), edges) ∈ drivenPorts d) :
    node ∈ d.names := by
  obtain ⟨⟨_, _, hnode, _⟩, _⟩ := mem_drivenPorts_iff.mp h
  exact Diagram.mem_names_of_hasNode hnode

theorem splits_multipleMasters (h : d₁.Apart d₂) :
    (ofPure multipleMasters).Splits ctx d₁ d₂ := by
  refine splits_of_gather drivenPorts (fun ctx use =>
    .ok (if isContended ctx use.1.1 use.2 then [contendedPort ctx use.1.1 use.1.2 use.2] else []))
    h (fun ctx => ?_) (drivenPorts_append h) ?_
  · simp only [ofPure, multipleMasters, gather_ok, map_filter_eq_flatMap]
  · rintro part d hp ⟨⟨node, port⟩, edges⟩ huse
    have hnode := hp.agreeAt ctx (mem_names_of_mem_drivenPorts huse)
    have hsources : ∀ e ∈ edges, (ctx.on part).AgreeAt (ctx.on d) e.source := fun e he =>
      hp.agreeAt ctx (Diagram.source_mem_names ((mem_iff_of_mem_drivenPorts huse).mp he).1)
    simp only [isContended_congr hnode, contendedPort_congr hnode hsources]

/-! ## Circuits and paths -/

theorem splits_circularDependency (h : d₁.Apart d₂) :
    (ofPure circularDependency).Splits ctx d₁ d₂ := by
  refine splits_of_gather Diagram.circuits (fun ctx c => .ok [circuitReport ctx c]) h
    (fun ctx => ?_) (Diagram.circuits_append h) ?_
  · simp only [ofPure, circularDependency_eq, gather_ok, List.map_eq_flatMap]
  · intro part d hp c hc
    have hids := (Diagram.mem_circuits_iff.mp hc).subset_ids
    refine congrArg (fun v => Except.ok [v]) (circuitReport_congr fun id hid => ?_)
    exact (hp.agreeAt ctx (Diagram.mem_names_of_mem_ids (hids hid))).label

theorem longFrom_eq {part : Diagram} {id : String} (hp : part.IsPart d) (hid : id ∈ part.names) :
    longFrom (ctx.on part) id = longFrom (ctx.on d) id :=
  congrArg (List.filter _) (hp.agreeOn.terminalPaths_eq hid)

theorem label_eq_of_mem_longFrom {part : Diagram} {id : String} {path : List String}
    (hp : part.IsPart d) (h : path ∈ longFrom (ctx.on part) id) :
    ∀ id ∈ path, (ctx.on part).label id = (ctx.on d).label id := by
  intro id hid
  have hnode := (Diagram.isTerminalPath_of_mem (List.mem_of_mem_filter h)).exist id hid
  exact (hp.agreeAt ctx (Diagram.mem_names_of_hasNode hnode)).label

theorem splits_longPaths (h : d₁.Apart d₂) : (ofPure longPaths).Splits ctx d₁ d₂ := by
  refine splits_of_gather Diagram.ids (fun ctx id =>
    .ok (if hasMaster ctx id then (longFrom ctx id).map (longPath ctx) else [])) h
    (fun ctx => ?_) (Diagram.ids_append h) ?_
  · rw [gather_ok, ← flatMap_filter]
    rfl
  · intro part d hp id hid
    have hid := Diagram.mem_names_of_mem_ids hid
    have hmaster := hasMaster_congr (hp.agreeAt ctx hid)
    have hpaths : (longFrom (ctx.on part) id).map (longPath (ctx.on part)) =
        (longFrom (ctx.on d) id).map (longPath (ctx.on d)) := by
      rw [← longFrom_eq hp hid]
      exact List.map_congr_left fun path hpath =>
        longPath_congr (label_eq_of_mem_longFrom hp hpath)
    simp only [hmaster, hpaths]

theorem splits_interfaceNaming (h : d₁.Apart d₂) : Check.Splits interfaceNaming ctx d₁ d₂ := by
  rcases interfaceNaming_eq_or (nameTest ctx) with ⟨failure, hfail⟩ | ⟨check, hcheck, heq⟩
  · rw [Check.Splits, hfail (ctx.on (d₁ ++ d₂)) rfl, hfail (ctx.on d₁) rfl]
    rfl
  · rw [Check.Splits, heq (ctx.on (d₁ ++ d₂)) rfl, heq (ctx.on d₁) rfl,
      heq (ctx.on d₂) rfl]
    exact splits_of_isNodewise h hcheck

/-! ## Addresses -/

theorem rangesOf_append_eq_ok_iff {os os' : List Occupied} {rs : List AddressRange} :
    rangesOf (os ++ os') = .ok rs ↔
      ∃ rs₁ rs₂, rangesOf os = .ok rs₁ ∧ rangesOf os' = .ok rs₂ ∧ rs₁ ++ rs₂ = rs := by
  simp only [rangesOf_eq_ok_iff, List.forall_mem_append, List.filterMap_append]
  grind

theorem addressRanges_append_eq_ok_iff (h : d₁.Apart d₂) {rs : List AddressRange} :
    addressRanges (ctx.on (d₁ ++ d₂)) = .ok rs ↔ ∃ rs₁ rs₂,
      addressRanges (ctx.on d₁) = .ok rs₁ ∧ addressRanges (ctx.on d₂) = .ok rs₂ ∧
        rs₁ ++ rs₂ = rs := by
  have hranges : ∀ part d : Diagram, part.IsPart d →
      rangesOf (part.nodes.map d.occupied) = addressRanges (ctx.on part) := by
    intro part d hp
    refine congrArg rangesOf (List.map_congr_left fun n hn => ?_)
    exact (occupied_on (hp.agreeAt ctx (Diagram.mem_names_of_mem_nodes hn))).symm
  rw [← hranges d₁ _ (Diagram.isPart_left h), ← hranges d₂ _ (Diagram.isPart_right h),
    ← rangesOf_append_eq_ok_iff, ← List.map_append]
  rfl

theorem pairs_append_sublist {α : Type} (l l' : List α) :
    (pairs l ++ pairs l').Sublist (pairs (l ++ l')) := by
  induction l with
  | nil => exact List.Sublist.refl _
  | cons a l ih =>
    rw [pairs, List.cons_append, pairs, List.map_append, List.append_assoc, List.append_assoc]
    refine List.Sublist.append_left ?_ _
    exact ih.trans (List.sublist_append_right _ _)

theorem addressOverlap_sublist (h : d₁.Apart d₂) {us us₁ us₂ : List Violation}
    (hus : addressOverlap (ctx.on (d₁ ++ d₂)) = .ok us) (h₁ : addressOverlap (ctx.on d₁) = .ok us₁)
    (h₂ : addressOverlap (ctx.on d₂) = .ok us₂) : (us₁ ++ us₂).Sublist us := by
  obtain ⟨rs, hrs, rfl⟩ := map_eq_ok_iff.mp hus
  obtain ⟨rs₁, hrs₁, rfl⟩ := map_eq_ok_iff.mp h₁
  obtain ⟨rs₂, hrs₂, rfl⟩ := map_eq_ok_iff.mp h₂
  obtain ⟨ss₁, ss₂, hss₁, hss₂, rfl⟩ := (addressRanges_append_eq_ok_iff h).mp hrs
  obtain rfl := Except.ok.inj (hrs₁.symm.trans hss₁)
  obtain rfl := Except.ok.inj (hrs₂.symm.trans hss₂)
  rw [← List.map_append, ← List.filter_append]
  exact ((pairs_append_sublist rs₁ rs₂).filter _).map _

theorem exists_addressOverlap_append_iff (h : d₁.Apart d₂) :
    (∃ us, addressOverlap (ctx.on (d₁ ++ d₂)) = .ok us) ↔
      (∃ us, addressOverlap (ctx.on d₁) = .ok us) ∧ ∃ us, addressOverlap (ctx.on d₂) = .ok us := by
  simp only [addressOverlap, exists_map_eq_ok_iff, addressRanges_append_eq_ok_iff h]
  grind

end Checks

namespace Analysis

open Checks

variable {ctx : Context} {d₁ d₂ : Diagram} {timestamp : String}

theorem splits_checks (h : d₁.Apart d₂) : ∀ check ∈ checks,
    check ≠ addressOverlap → check ≠ ofPure uniqueLabels → check.Splits ctx d₁ d₂ :=
  forall_mem_checks (fun _ hcheck _ _ => splits_of_isEdgewise h hcheck)
    (fun _ hcheck _ _ => splits_of_isNodewise h hcheck) (fun _ _ => splits_portUniqueness h)
    (fun _ _ => splits_multipleMasters h) (fun hne _ => absurd rfl hne)
    (fun _ _ => splits_circularDependency h) (fun _ _ => splits_longPaths h)
    (fun _ hne => absurd rfl hne) (fun _ _ => splits_interfaceNaming h)

/-- A check ends on the whole exactly if it ends on both parts. -/
theorem exists_check_append_iff (h : d₁.Apart d₂) {check : Check} (hcheck : check ∈ checks) :
    (∃ us, check (ctx.on (d₁ ++ d₂)) = .ok us) ↔
      (∃ us, check (ctx.on d₁) = .ok us) ∧ ∃ us, check (ctx.on d₂) = .ok us := by
  by_cases hoverlap : check = addressOverlap
  case pos => exact hoverlap ▸ exists_addressOverlap_append_iff h
  by_cases hlabels : check = ofPure uniqueLabels
  case pos => simp [hlabels, ofPure]
  rw [splits_checks h check hcheck hoverlap hlabels, exists_append_eq_ok_iff]

theorem exists_run_append_iff (h : d₁.Apart d₂) :
    (∃ run, Analysis.run timestamp (ctx.on (d₁ ++ d₂)) = .ok run) ↔
      (∃ run, Analysis.run timestamp (ctx.on d₁) = .ok run) ∧
        ∃ run, Analysis.run timestamp (ctx.on d₂) = .ok run := by
  simp only [exists_run_iff_forall_checks, ← forall₂_and]
  exact forall₂_congr fun check hcheck => exists_check_append_iff h hcheck

theorem findings_addressOverlap {run : Run} (h : Analysis.run timestamp ctx = .ok run) :
    addressOverlap ctx = .ok (run.findings .addressOverlap) :=
  findings_eq_of_singleton (i := 10) h rfl rfl

theorem gaps_append (h : d₁.Apart d₂) : (ctx.on (d₁ ++ d₂)).design.gaps =
    (ctx.on d₁).design.gaps ++ (ctx.on d₂).design.gaps := by
  have hpart : ∀ part d : Diagram, part.IsPart d →
      part.ids.filter (ctx.on d).design.isGap = (ctx.on part).design.gaps := by
    intro part d hp
    exact List.filter_congr fun id hid =>
      (hp.agreeAt ctx (Diagram.mem_names_of_mem_ids hid)).isGap.symm
  rw [← hpart d₁ _ (Diagram.isPart_left h), ← hpart d₂ _ (Diagram.isPart_right h),
    ← List.filter_append, ← Diagram.ids_append h]
  rfl

/-- Diagrams without a common identifier are analysed side by side as by themselves: a run on
both ends exactly if it ends on each, every check but those of overlaps and of labels lists
what it finds in the one and then what it finds in the other, no overlap is lost, and the
nodes without interfaces are those of the one and then those of the other. -/
theorem run_append (h : d₁.Apart d₂) (ctx : Context) (timestamp : String) :
    ((∃ run, Analysis.run timestamp (ctx.on (d₁ ++ d₂)) = .ok run) ↔
      (∃ run, Analysis.run timestamp (ctx.on d₁) = .ok run) ∧
        ∃ run, Analysis.run timestamp (ctx.on d₂) = .ok run) ∧
    (∀ check ∈ checks, check ≠ addressOverlap → check ≠ ofPure uniqueLabels →
      check (ctx.on (d₁ ++ d₂)) = (· ++ ·) <$> check (ctx.on d₁) <*> check (ctx.on d₂)) ∧
    ∀ run run₁ run₂, Analysis.run timestamp (ctx.on (d₁ ++ d₂)) = .ok run →
      Analysis.run timestamp (ctx.on d₁) = .ok run₁ →
      Analysis.run timestamp (ctx.on d₂) = .ok run₂ →
      (run₁.findings .addressOverlap ++ run₂.findings .addressOverlap).Sublist
        (run.findings .addressOverlap) ∧
      run.gaps = run₁.gaps ++ run₂.gaps := by
  refine ⟨exists_run_append_iff h, splits_checks h, fun run run₁ run₂ hrun hrun₁ hrun₂ => ⟨?_, ?_⟩⟩
  · exact addressOverlap_sublist h (findings_addressOverlap hrun) (findings_addressOverlap hrun₁)
      (findings_addressOverlap hrun₂)
  · obtain ⟨_, -, rfl⟩ := run_eq_ok_iff.mp hrun
    obtain ⟨_, -, rfl⟩ := run_eq_ok_iff.mp hrun₁
    obtain ⟨_, -, rfl⟩ := run_eq_ok_iff.mp hrun₂
    exact gaps_append h

/-- A processor and two memories at overlapping addresses, with a circuit and an edge that leads
nowhere. -/
def processorSide : Diagram where
  nodes :=
    [⟨"cpu", "CPU", none, none, none, none, none, none,
       [⟨"m", "m_axi", some "axi", .master, some (.number 64), none, none, none, none, false, []⟩]⟩,
     ⟨"rom", "ROM", none, none, none, some "0x1000", some "4KB", none, []⟩,
     ⟨"ram", "RAM", none, none, none, some "0x1800", some "4KB", none, []⟩]
  edges :=
    [⟨"e0", "cpu", "rom", some "m", none, none⟩, ⟨"e1", "rom", "cpu", none, none, none⟩,
     ⟨"e2", "ram", "gone", none, none, none⟩]

/-- A sensor whose addresses overlap those of the processor's memories. -/
def sensorSide : Diagram where
  nodes := [⟨"sensor", "Sensor", none, none, none, some "0x1000", some "8KB", none, []⟩]
  edges := [⟨"e0", "sensor", "sensor", none, none, none⟩]

/-- The overlap between the memories is still found beside the sensor, and each side keeps its
nodes without interfaces. -/
theorem run_processorSide_append_sensorSide :
    processorSide.Apart sensorSide ∧
    ∃ run run₁ run₂,
      Analysis.run "" (Context.usual.on (processorSide ++ sensorSide)) = .ok run ∧
      Analysis.run "" (Context.usual.on processorSide) = .ok run₁ ∧
      Analysis.run "" (Context.usual.on sensorSide) = .ok run₂ ∧
      (run₁.findings .addressOverlap ++ run₂.findings .addressOverlap).Sublist
        (run.findings .addressOverlap) ∧
      run.gaps = run₁.gaps ++ run₂.gaps := by
  have hapart : processorSide.Apart sensorSide := by decide
  have hends₁ : (Analysis.run "" (Context.usual.on processorSide)).map (fun _ => ()) = .ok () := by
    decide +kernel
  have hends₂ : (Analysis.run "" (Context.usual.on sensorSide)).map (fun _ => ()) = .ok () := by
    decide +kernel
  obtain ⟨run₁, h₁, -⟩ := map_eq_ok_iff.mp hends₁
  obtain ⟨run₂, h₂, -⟩ := map_eq_ok_iff.mp hends₂
  obtain ⟨hiff, -, hruns⟩ := run_append hapart .usual ""
  obtain ⟨run, h⟩ := hiff.mpr ⟨⟨run₁, h₁⟩, run₂, h₂⟩
  exact ⟨hapart, run, run₁, run₂, h, h₁, h₂, hruns run run₁ run₂ h h₁ h₂⟩

end Analysis

end DesignRules
