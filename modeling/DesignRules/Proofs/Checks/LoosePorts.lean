import DesignRules.Checks.Attributes
import DesignRules.Checks.Ports
import DesignRules.Proofs.Listing

/-! # Loose ports

A port is loose if no connection touches it although one should. A connection touches at each of
its ends the port that it names there or, if it names none, the interface that is found. Exactly
the loose ports are reported.
-/

namespace DesignRules

namespace Checks

variable {ctx : Context} {e : Connection} {node id text : String} {handle : Option String}
  {found : Option Interface} {port : String × Interface} {v : Violation}

/-- An end of a connection touches an interface identifier of a component. -/
def TouchesAt (node : String) (handle : Option String) (found : Option Interface)
    (id text : String) : Prop :=
  node = id ∧ (filled handle = some text ∨
    filled handle = none ∧ ∃ i, found = some i ∧ i.id = text)

def Touches (ctx : Context) (e : Connection) (id text : String) : Prop :=
  TouchesAt e.source e.sourceHandle (ctx.resolver.resolveEdge e).1 id text ∨
    TouchesAt e.target e.targetHandle (ctx.resolver.resolveEdge e).2 id text

/-- A port that should be connected and is not. -/
structure IsLoose (ctx : Context) (port : String × Interface) : Prop where
  role : port.2.direction = .master ∨ port.2.direction = .slave
  required : port.2.optional → ctx.options.checkOptionalPorts
  untouched : ∀ e ∈ ctx.diagram.edges, ¬ Touches ctx e port.1 port.2.id

/-- The violation reports a loose port under the rule for its role. -/
structure ReportsLoose (v : Violation) (port : String × Interface) : Prop where
  master : port.2.direction = .master → v.ruleId = Rule.unconnectedMaster.code
  slave : port.2.direction = .slave → v.ruleId = Rule.unconnectedSlave.code
  components : v.affectedComponents = some [port.1]
  interfaces : v.affectedInterfaces = some [port.2.id]

theorem mem_touchedPort_iff :
    (id, text) ∈ (touchedPort node handle found).toList ↔ TouchesAt node handle found id text := by
  rw [touchedPort, Option.mem_toList, Option.map_eq_some_iff, Option.orElse_eq_orElse,
    Option.orElse_eq_or]
  simp only [Option.or_eq_some_iff, Option.map_eq_some_iff, Prod.mk.injEq]
  constructor
  · rintro ⟨_, h, rfl, rfl⟩
    exact ⟨rfl, h⟩
  · rintro ⟨rfl, h⟩
    exact ⟨text, h, rfl, rfl⟩

theorem mem_connectedPorts_iff :
    (id, text) ∈ connectedPorts ctx ↔ ∃ e ∈ ctx.diagram.edges, Touches ctx e id text := by
  rw [connectedPorts, List.mem_flatMap]
  apply exists_congr
  intro e
  rw [touchedPorts, List.mem_append, mem_touchedPort_iff, mem_touchedPort_iff, Touches]

/-- What is reported about a port, if anything. -/
def loosePort? (ctx : Context) (port : String × Interface) : Option Violation :=
  if (connectedPorts ctx).contains (port.1, port.2.id) ||
      (port.2.optional && !ctx.options.checkOptionalPorts) then none
  else unconnected? ctx port.1 port.2

theorem unconnectedInterfaces_eq_filterMap (ctx : Context) :
    unconnectedInterfaces ctx = (ports ctx).filterMap (loosePort? ctx) := by
  rw [ports, List.filterMap_flatMap]
  simp only [List.filterMap_map]
  rfl

theorem unconnected?_eq_none_iff {i : Interface} :
    unconnected? ctx id i = none ↔ ¬ (i.direction = .master ∨ i.direction = .slave) := by
  unfold unconnected?
  cases i.direction <;> simp

/-- Nothing is reported about a port exactly if it is connected, where it has to be. -/
theorem loosePort?_eq_none_iff : loosePort? ctx port = none ↔
    (port.2.direction = .master ∨ port.2.direction = .slave →
      (port.2.optional → ctx.options.checkOptionalPorts) →
        (port.1, port.2.id) ∈ connectedPorts ctx) := by
  rw [loosePort?, ite_eq_left_iff, unconnected?_eq_none_iff, Bool.or_eq_true,
    List.contains_iff_mem, Bool.and_eq_true, Bool.not_eq_true']
  constructor
  · intro h hrole hrequired
    by_contra hfree
    apply h _ hrole
    rintro (hconnected | ⟨hoptional, hunchecked⟩)
    · exact hfree hconnected
    · exact absurd (hrequired hoptional) (by simp [hunchecked])
  · intro h hreported hrole
    apply hreported
    by_cases hrequired : port.2.optional → ctx.options.checkOptionalPorts
    · exact .inl (h hrole hrequired)
    · obtain ⟨hoptional, hunchecked⟩ := Classical.not_imp.mp hrequired
      exact .inr ⟨hoptional, Bool.eq_false_iff.mpr hunchecked⟩

theorem isSome_loosePort?_iff : (loosePort? ctx port).isSome ↔ IsLoose ctx port := by
  rw [Option.isSome_iff_ne_none, ne_eq, loosePort?_eq_none_iff, mem_connectedPorts_iff]
  constructor
  · intro h
    obtain ⟨hrole, h⟩ := Classical.not_imp.mp h
    obtain ⟨hrequired, hfree⟩ := Classical.not_imp.mp h
    exact ⟨hrole, hrequired, fun e he htouches => hfree ⟨e, he, htouches⟩⟩
  · rintro ⟨hrole, hrequired, hfree⟩ h
    obtain ⟨e, he, htouches⟩ := h hrole hrequired
    exact hfree e he htouches

instance : DecidablePred (IsLoose ctx) := fun _ => decidable_of_iff _ isSome_loosePort?_iff

theorem reportsLoose_of_loosePort? (h : loosePort? ctx port = some v) : ReportsLoose v port := by
  unfold loosePort? at h
  split at h
  · cases h
  unfold unconnected? at h
  cases hrole : port.2.direction with
  | master =>
    rw [hrole] at h
    obtain rfl := Option.some.inj h
    exact ⟨fun _ => rfl, fun hslave => absurd (hrole.symm.trans hslave) (by decide), rfl, rfl⟩
  | slave =>
    rw [hrole] at h
    obtain rfl := Option.some.inj h
    exact ⟨fun hmaster => absurd (hrole.symm.trans hmaster) (by decide), fun _ => rfl, rfl, rfl⟩
  | input | output | unknown =>
    rw [hrole] at h
    cases h

/-- Interface by interface of each node entry, exactly the loose ones are reported. -/
theorem unconnectedInterfaces_exact (ctx : Context) :
    List.Forall₂ ReportsLoose (unconnectedInterfaces ctx)
      ((ports ctx).filter fun port => decide (IsLoose ctx port)) := by
  rw [unconnectedInterfaces_eq_filterMap]
  exact forall₂_filterMap_filter (fun _ => isSome_loosePort?_iff)
    (fun _ _ h => reportsLoose_of_loosePort? h) _

end Checks

end DesignRules
