import DesignRules.Proofs.Analysis.Findings
import DesignRules.Proofs.Checks.Connections
import DesignRules.Proofs.Checks.SharedPorts

/-! # Competing connections

Connections into a component compete if they come in under the same handle, and those without a
handle compete with each other. The handle `default` is taken for none.
-/

namespace DesignRules

/-- The handle under which a connection competes. The text `default` stands for no handle. -/
def Connection.ownHandle (e : Connection) : Option String :=
  (filled e.targetHandle).filter (· != "default")

/-- Where a connection comes in under a reading of the handles. -/
def Connection.portUnder (handle : Connection → Option String) (e : Connection) :
    String × Option String :=
  (e.target, handle e)

namespace Diagram

/-- The connections into existing components. -/
def arriving (d : Diagram) : List Connection := d.edges.filter fun e => d.hasNode e.target

/-- The connections that come in at a port, in their order. -/
def competitors (d : Diagram) (handle : Connection → Option String)
    (port : String × Option String) : List Connection :=
  d.arriving.filter (·.portUnder handle == port)

end Diagram

namespace Checks

open Check

variable {ctx : Context} {d : Diagram} {handle : Connection → Option String}
  {port : String × Option String} {edges : List Connection}

/-- The distinct sources, in the order of their first connections. -/
def sources (edges : List Connection) : List String := (edges.map (·.source)).eraseDups

/-- A component that is no arbiter is driven at the port from several sources. -/
def IsDisputed (ctx : Context) (handle : Connection → Option String)
    (port : String × Option String) : Prop :=
  (∃ n, ctx.diagram.node? port.1 = some n ∧ ctx.isArbiter n = false) ∧
    ∃ e ∈ ctx.diagram.competitors handle port, ∃ f ∈ ctx.diagram.competitors handle port,
      e.source ≠ f.source

/-- The violation reports the sources that compete at a port, and names the port if it is an
interface of the component. -/
structure ReportsDispute (ctx : Context) (handle : Connection → Option String) (v : Violation)
    (port : String × Option String) : Prop where
  ruleId : v.ruleId = Rule.multipleMasters.code
  components : v.affectedComponents =
    some (port.1 :: sources (ctx.diagram.competitors handle port))
  count : v.number? "masterCount" =
    some ((sources (ctx.diagram.competitors handle port)).length : ℤ)
  named : ∀ i ∈ ctx.interfaces port.1, port.2 = some i.id → v.affectedInterfaces = some [i.id]
  unnamed : (∀ i ∈ ctx.interfaces port.1, port.2 ≠ some i.id) → v.affectedInterfaces = some []

/-- Connections compete as a reading of the handles says: exactly the disputed ports are
reported, each once and in the order of their first connections. -/
def CompeteUnder (ctx : Context) (handle : Connection → Option String) : Prop :=
  ∃ ports, ListsFirst (ctx.diagram.arriving.map (·.portUnder handle)) (IsDisputed ctx handle) ports ∧
    List.Forall₂ (ReportsDispute ctx handle) (multipleMasters ctx) ports

/-- The port for which a key stands. -/
def portOfKey (key : String × String) : String × Option String :=
  (key.1, if key.2 = "default" then none else some key.2)

theorem getD_portOfKey (key : String × String) : (portOfKey key).2.getD "default" = key.2 := by
  unfold portOfKey
  split <;> simp_all

theorem portOfKey_injective : Function.Injective portOfKey := by
  intro a b h
  refine Prod.ext (congrArg (·.1) h) ?_
  rw [← getD_portOfKey a, h, getD_portOfKey]

theorem portOfKey_drivenPort (e : Connection) :
    portOfKey (drivenPort e) = e.portUnder Connection.ownHandle := by
  unfold portOfKey drivenPort Connection.portUnder Connection.ownHandle
  cases filled e.targetHandle with
  | none => rfl
  | some h => by_cases hd : h = "default" <;> simp [Option.filter, hd]

/-- A reading that agrees on every connection to an existing component has the same classes. -/
theorem map_drivenPorts (h : ∀ e ∈ d.arriving, handle e = e.ownHandle) :
    (drivenPorts d).map (fun group => (portOfKey group.1, group.2)) =
      (d.arriving.map (·.portUnder handle)).eraseDups.map
        fun port => (port, d.competitors handle port) := by
  have hread : ∀ e ∈ d.arriving, e.portUnder handle = e.portUnder Connection.ownHandle :=
    fun e he => congrArg (e.target, ·) (h e he)
  have hgroups : groupBy (·.portUnder Connection.ownHandle) (d.arriving.map id) =
      (drivenPorts d).map fun group => (portOfKey group.1, group.2.map id) :=
    groupBy_map drivenPort _ portOfKey_injective fun e => (portOfKey_drivenPort e).symm
  simp only [List.map_id] at hgroups
  calc (drivenPorts d).map (fun group => (portOfKey group.1, group.2))
      = groupBy (·.portUnder Connection.ownHandle) d.arriving := hgroups.symm
    _ = groupBy (·.portUnder handle) d.arriving := (groupBy_congr hread).symm

theorem multipleMasters_under (h : ∀ e ∈ ctx.diagram.arriving, handle e = e.ownHandle) :
    multipleMasters ctx =
      ((ctx.diagram.arriving.map (·.portUnder handle)).eraseDups.filter fun port =>
        isContended ctx port.1 (ctx.diagram.competitors handle port)).map fun port =>
          contendedPort ctx port.1 (port.2.getD "default") (ctx.diagram.competitors handle port) := by
  have hgroups : multipleMasters ctx =
      (((drivenPorts ctx.diagram).map fun group => (portOfKey group.1, group.2)).filter
        fun group => isContended ctx group.1.1 group.2).map
          fun group => contendedPort ctx group.1.1 (group.1.2.getD "default") group.2 := by
    rw [List.filter_map, List.map_map, multipleMasters]
    apply List.map_congr_left
    rintro ⟨⟨node, port⟩, edges⟩ _
    exact congrArg (contendedPort ctx node · edges) (getD_portOfKey (node, port)).symm
  rw [hgroups, map_drivenPorts h, List.filter_map, List.map_map]
  rfl

theorem isContended_iff {node : String} : isContended ctx node edges ↔
    (∃ n, ctx.diagram.node? node = some n ∧ ctx.isArbiter n = false) ∧
      ∃ e ∈ edges, ∃ f ∈ edges, e.source ≠ f.source := by
  rw [← not_iff_not, not_isContended_iff]
  constructor
  · rintro h ⟨⟨n, hn, hpassive⟩, e, he, f, hf, hne⟩
    exact hne (h n hn hpassive e he f hf)
  · intro h n hn hpassive e he f hf
    by_contra hne
    exact h ⟨⟨n, hn, hpassive⟩, e, he, f, hf, hne⟩

theorem isDisputed_iff : IsDisputed ctx handle port ↔
    port ∈ ctx.diagram.arriving.map (·.portUnder handle) ∧
      isContended ctx port.1 (ctx.diagram.competitors handle port) := by
  rw [isContended_iff]
  constructor
  · rintro ⟨hpassive, e, he, hf⟩
    obtain ⟨harrives, hport⟩ := List.mem_filter.mp he
    exact ⟨List.mem_map.mpr ⟨e, harrives, beq_iff_eq.mp hport⟩, hpassive, e, he, hf⟩
  · rintro ⟨-, h⟩
    exact h

theorem interfaces_contendedPort (hport : port.2 ≠ some "default") :
    (contendedPort ctx port.1 (port.2.getD "default") edges).affectedInterfaces =
      some ((ctx.resolver.find? port.1 port.2).map (·.id)).toList := by
  have hhandle : (if port.2.getD "default" = "default" then none else
      some (port.2.getD "default")) = port.2 := by
    obtain ⟨node, handle⟩ := port
    cases handle with
    | none => rfl
    | some h => simpa using hport
  exact congrArg (fun handle => some ((ctx.resolver.find? port.1 handle).map (·.id)).toList) hhandle

theorem reportsDispute_contendedPort (hport : port.2 ≠ some "default") :
    ReportsDispute ctx handle (contendedPort ctx port.1 (port.2.getD "default")
      (ctx.diagram.competitors handle port)) port where
  ruleId := rfl
  components := congrArg (fun masters => some (port.1 :: masters)) (map_drivers _)
  count := congrArg (fun count : ℕ => some (count : ℤ)) (length_drivers _)
  named i hi hi' := by
    rw [interfaces_contendedPort hport, hi', Resolver.map_id_find? hi, Option.toList_some]
  unnamed h := by
    rw [interfaces_contendedPort hport, Resolver.find?_eq_none h, Option.map_none,
      Option.toList_none]

theorem ne_default_of_mem (h : ∀ e ∈ d.arriving, handle e = e.ownHandle)
    (hport : port ∈ d.arriving.map (·.portUnder handle)) : port.2 ≠ some "default" := by
  obtain ⟨e, he, rfl⟩ := List.mem_map.mp hport
  have hown : (e.portUnder handle).2 = e.ownHandle := h e he
  rw [hown]
  intro hdefault
  simpa using (Option.filter_eq_some_iff.mp hdefault).2

/-- Connections compete under every reading of the handles that takes `default` for none. -/
theorem competeUnder_of_agrees (h : ∀ e ∈ ctx.diagram.arriving, handle e = e.ownHandle) :
    CompeteUnder ctx handle := by
  refine ⟨_, listsFirst_filter_eraseDups fun _ => isDisputed_iff, ?_⟩
  rw [multipleMasters_under h, List.forall₂_map_left_iff, List.forall₂_same]
  intro port hport
  apply reportsDispute_contendedPort
  exact ne_default_of_mem h (List.mem_eraseDups.mp (List.mem_filter.mp hport).1)

theorem ownHandle_eq_filled {e : Connection} (h : filled e.targetHandle ≠ some "default") :
    e.ownHandle = filled e.targetHandle := by
  rw [Connection.ownHandle]
  cases hfilled : filled e.targetHandle with
  | none => rfl
  | some text =>
    have htext : text ≠ "default" := fun he => h (by rw [hfilled, he])
    simp [Option.filter, htext]

/-- Connections compete under their handles with `default` taken for none. Where no connection to an
existing component gives this handle, they compete under their handles as given. -/
theorem multipleMasters_competition (ctx : Context) :
    CompeteUnder ctx Connection.ownHandle ∧
      ((∀ e ∈ ctx.diagram.arriving, filled e.targetHandle ≠ some "default") →
        CompeteUnder ctx fun e => filled e.targetHandle) := by
  constructor
  · exact competeUnder_of_agrees fun _ _ => rfl
  · intro h
    exact competeUnder_of_agrees fun e he => (ownHandle_eq_filled (h e he)).symm

def slavePort (id : String) : Interface :=
  ⟨id, id, none, .slave, none, none, none, none, none, false, []⟩

/-- Two processors, each wired to a memory with two slave interfaces under a handle of its own. -/
def dualMemory (first second : Option String) : Context where
  design :=
    { diagram :=
        { nodes :=
            [⟨"c0", "CPU0", none, none, none, none, none, none, []⟩,
             ⟨"c1", "CPU1", none, none, none, none, none, none, []⟩,
             ⟨"mem", "Memory", none, none, none, none, none, none,
               [slavePort "s0", slavePort "default"]⟩]
          edges :=
            [⟨"e0", "c0", "mem", none, first, none⟩, ⟨"e1", "c1", "mem", none, second, none⟩] }
      library := [] }
  options := ⟨false⟩
  settings := Settings.default
  arbiter := none

/-- Both processors name the first interface and are reported. -/
theorem competeUnder_dualMemory_named :
    (∀ e ∈ (dualMemory (some "s0") (some "s0")).diagram.arriving,
      filled e.targetHandle ≠ some "default") ∧
    (multipleMasters (dualMemory (some "s0") (some "s0"))).map (·.affectedInterfaces) =
      [some ["s0"]] ∧
    CompeteUnder (dualMemory (some "s0") (some "s0")) fun e => filled e.targetHandle := by
  have hhandles : ∀ e ∈ (dualMemory (some "s0") (some "s0")).diagram.arriving,
      filled e.targetHandle ≠ some "default" := by
    decide
  exact ⟨hhandles, by decide +kernel, (multipleMasters_competition _).2 hhandles⟩

/-- One processor names the second interface and the other names none, which means the first. They
are reported as if they competed. -/
theorem not_competeUnder_dualMemory :
    (multipleMasters (dualMemory (some "default") none)).map (·.affectedComponents) =
      [some ["mem", "c0", "c1"]] ∧
    ¬ CompeteUnder (dualMemory (some "default") none) fun e => filled e.targetHandle := by
  have hreported : (multipleMasters (dualMemory (some "default") none)).map
      (·.affectedComponents) = [some ["mem", "c0", "c1"]] := by
    decide +kernel
  have halone : ∀ e ∈ (dualMemory (some "default") none).diagram.arriving,
      ∀ f ∈ (dualMemory (some "default") none).diagram.arriving,
        filled e.targetHandle = filled f.targetHandle → e.source = f.source := by
    decide
  refine ⟨hreported, ?_⟩
  rintro ⟨ports, hports, hreports⟩
  have hlength : (multipleMasters (dualMemory (some "default") none)).length = 1 := by
    simpa using congrArg List.length hreported
  have hnonempty : ports.length = 1 := hreports.length_eq ▸ hlength
  obtain ⟨port, rfl⟩ := List.length_eq_one_iff.mp hnonempty
  obtain ⟨-, e, he, f, hf, hne⟩ := (hports.mem_iff port).mp (List.mem_singleton_self port)
  obtain ⟨he, hport⟩ := List.mem_filter.mp he
  obtain ⟨hf, hport'⟩ := List.mem_filter.mp hf
  have hsame : e.portUnder (fun e => filled e.targetHandle) =
      f.portUnder fun e => filled e.targetHandle :=
    (beq_iff_eq.mp hport).trans (beq_iff_eq.mp hport').symm
  exact hne (halone e he f hf (congrArg (·.2) hsame))

/-! ## Disputed ports that are named -/

/-- A violation covers another one of the same port: it names all connections of the other and
counts no fewer. -/
structure Covers (w v : Violation) : Prop where
  component : ∃ node masters, v.affectedComponents = some (node :: masters) ∧
    w.affectedComponents = some [node]
  interfaces : w.affectedInterfaces = v.affectedInterfaces
  connections : ∃ ids ids', v.affectedConnections = some ids ∧
    w.affectedConnections = some ids' ∧ ids.Sublist ids'
  counts : ∃ masters uses, v.number? "masterCount" = some masters ∧
    w.number? "connectionCount" = some uses ∧ masters ≤ uses

theorem filter_sublist_flatMap_replicate {α : Type} {p : α → Bool} {n : α → ℕ}
    (h : ∀ a, p a → 0 < n a) (l : List α) :
    (l.filter p).Sublist (l.flatMap fun a => List.replicate (n a) a) := by
  induction l with
  | nil => exact .slnil
  | cons a l ih =>
    rw [List.flatMap_cons]
    cases ha : p a with
    | false =>
      rw [List.filter_cons_of_neg (by simp [ha])]
      exact ih.trans (List.sublist_append_right _ _)
    | true =>
      rw [List.filter_cons_of_pos ha]
      have hone : [a].Sublist (List.replicate (n a) a) :=
        List.singleton_sublist.mpr (List.mem_replicate.mpr ⟨(h a ha).ne', rfl⟩)
      exact hone.append ih

theorem filled_of_ownHandle {e : Connection} {text : String} (h : e.ownHandle = some text) :
    filled e.targetHandle = some text :=
  (Option.filter_eq_some_iff.mp h).1

/-- All who compete at a port under a handle of their own name the port. -/
theorem competitors_sublist_namers (d : Diagram) (node text : String) :
    (d.competitors Connection.ownHandle (node, some text)).Sublist (d.namers (node, text)) := by
  rw [Diagram.competitors, Diagram.arriving, List.filter_filter]
  apply filter_sublist_flatMap_replicate
  intro e he
  have hport : e.portUnder Connection.ownHandle = (node, some text) :=
    beq_iff_eq.mp (Bool.and_eq_true_iff.mp he).1
  obtain ⟨rfl, hown⟩ := Prod.mk.inj hport
  rw [List.count_pos_iff, Connection.namedPorts, filled_of_ownHandle hown]
  simp

theorem length_sources_le (edges : List Connection) : (sources edges).length ≤ edges.length := by
  have hsub : (sources edges).Subperm (edges.map (·.source)) :=
    List.subperm_of_subset (nodup_eraseDups _) fun _ h => List.mem_eraseDups.mp h
  simpa using hsub.length_le

/-- A port that is named in the report of a dispute is the one for which the masters compete. -/
theorem exists_dispute_of_mem_multipleMasters {v : Violation} {text : String}
    (hv : v ∈ multipleMasters ctx) (htext : v.affectedInterfaces = some [text]) :
    ∃ node, 1 < (sources (ctx.diagram.competitors Connection.ownHandle (node, some text))).length ∧
      ReportsDispute ctx Connection.ownHandle v (node, some text) ∧
      v.affectedConnections =
        some (edgeIds (ctx.diagram.competitors Connection.ownHandle (node, some text))) := by
  have hown : ∀ e ∈ ctx.diagram.arriving, e.ownHandle = e.ownHandle := fun _ _ => rfl
  rw [multipleMasters_under hown] at hv
  obtain ⟨⟨node, handle⟩, hport, rfl⟩ := List.mem_map.mp hv
  obtain ⟨hport, hcontended⟩ := List.mem_filter.mp hport
  have hdefault : (node, handle).2 ≠ some "default" :=
    ne_default_of_mem hown (List.mem_eraseDups.mp hport)
  rw [interfaces_contendedPort hdefault, Option.some_inj, Option.toList_eq_singleton_iff,
    Option.map_eq_some_iff] at htext
  obtain ⟨i, hi, rfl⟩ := htext
  obtain ⟨rfl, -⟩ := Resolver.eq_some_of_find? hi
  refine ⟨node, ?_, reportsDispute_contendedPort hdefault, rfl⟩
  rw [sources, ← length_drivers]
  exact of_decide_eq_true (Bool.and_eq_true_iff.mp hcontended).1

theorem exists_covers_of_mem_multipleMasters {v : Violation} {text : String}
    (hv : v ∈ multipleMasters ctx) (htext : v.affectedInterfaces = some [text]) :
    ∃ w ∈ portUniqueness ctx, Covers w v := by
  obtain ⟨node, hseveral, hdispute, hconnections⟩ :=
    exists_dispute_of_mem_multipleMasters hv htext
  have hsub := competitors_sublist_namers ctx.diagram node text
  have hcount := length_sources_le (ctx.diagram.competitors Connection.ownHandle (node, some text))
  have hlength := hsub.length_le
  have hshared : 2 ≤ (ctx.diagram.namers (node, text)).length := by omega
  obtain ⟨w, hw, hsharing⟩ := exists_reportsSharing hshared
  refine ⟨w, hw, ?_⟩
  constructor
  · exact ⟨node, _, hdispute.components, hsharing.components⟩
  · rw [hsharing.interfaces, htext]
  · exact ⟨_, _, hconnections, hsharing.connections, (hsub.map _).filter _⟩
  · refine ⟨_, _, hdispute.count, hsharing.count, ?_⟩
    omega

/-- Every dispute about a port that is named is also a sharing of that port, in what the checks
list and in what a run finds. -/
theorem disputed_ports_shared (ctx : Context) :
    (∀ v ∈ multipleMasters ctx, ∀ text, v.affectedInterfaces = some [text] →
      ∃ w ∈ portUniqueness ctx, Covers w v) ∧
    ∀ timestamp run, Analysis.run timestamp ctx = .ok run →
      ∀ v ∈ run.result.violations, v.ruleId = Rule.multipleMasters.code →
        ∀ text, v.affectedInterfaces = some [text] →
          ∃ w ∈ run.result.violations, w.ruleId = Rule.portUniqueness.code ∧ Covers w v := by
  constructor
  · intro v hv text htext
    exact exists_covers_of_mem_multipleMasters hv htext
  · intro timestamp run hrun v hv hrule text htext
    have hdisputes : run.findings .multipleMasters = multipleMasters ctx :=
      Analysis.findings_ofPure (i := 4) hrun rfl rfl
    have hshared : run.findings .portUniqueness = portUniqueness ctx :=
      Analysis.findings_ofPure (i := 0) hrun rfl rfl
    have hfound : v.unnumbered ∈ multipleMasters ctx :=
      hdisputes ▸ Run.mem_findings_iff.mpr ⟨v, hv, hrule, rfl⟩
    obtain ⟨w, hw, hcovers⟩ := exists_covers_of_mem_multipleMasters hfound htext
    rw [← hshared] at hw
    obtain ⟨u, hu, hrule', rfl⟩ := Run.mem_findings_iff.mp hw
    exact ⟨u, hu, hrule', hcovers.component, hcovers.interfaces, hcovers.connections,
      hcovers.counts⟩

/-- The two processors at the first interface of the memory share it. -/
theorem covers_dualMemory :
    ∃ v ∈ multipleMasters (dualMemory (some "s0") (some "s0")),
      v.affectedInterfaces = some ["s0"] ∧
        ∃ w ∈ portUniqueness (dualMemory (some "s0") (some "s0")), Covers w v := by
  have hreported : (multipleMasters (dualMemory (some "s0") (some "s0"))).map
      (·.affectedInterfaces) = [some ["s0"]] := by
    decide +kernel
  obtain ⟨v, hv, hinterfaces⟩ := List.mem_map.mp (hreported ▸ List.mem_singleton_self (some ["s0"]))
  exact ⟨v, hv, hinterfaces, (disputed_ports_shared _).1 v hv "s0" hinterfaces⟩

end Checks

end DesignRules
