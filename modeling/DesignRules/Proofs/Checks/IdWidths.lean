import DesignRules.Proofs.Checks.Wirewise
import DesignRules.Proofs.Listing

/-! # Identifier widths of connected interfaces

A connection between AXI interfaces is reported exactly if the identifier width of its source
exceeds that of its target. So the width of a master is held against that of a slave where the
connection is drawn from the master. Drawn from the slave, it is judged the other way round.
-/

namespace DesignRules

open Checks

/-- Two numeric widths, neither of them zero, of which the first is not at most the second. -/
structure Width.Exceeds (a b : Width) : Prop where
  numbers : a.isNumber ∧ b.isNumber
  nonzero : a.isTrue ∧ b.isTrue
  not_atMost : ¬ a.atMost b

theorem exceedingWidths?_eq_some_iff {x y : Option Width} {a b : Width} :
    exceedingWidths? x y = some (a, b) ↔ x = some a ∧ y = some b ∧ a.Exceeds b := by
  constructor
  · intro h
    unfold exceedingWidths? at h
    split at h
    case h_1 x y =>
      obtain ⟨hcond, hab⟩ := Option.ite_none_right_eq_some.mp h
      obtain ⟨rfl, rfl⟩ := Prod.mk.inj (Option.some.inj hab)
      simp only [Bool.and_eq_true, Bool.not_eq_true'] at hcond
      obtain ⟨⟨⟨⟨hx, hy⟩, hxTrue⟩, hyTrue⟩, hxy⟩ := hcond
      exact ⟨rfl, rfl, ⟨hx, hy⟩, ⟨hxTrue, hyTrue⟩, by simp [hxy]⟩
    case h_2 => cases h
  · rintro ⟨rfl, rfl, ⟨hx, hy⟩, ⟨hxTrue, hyTrue⟩, hxy⟩
    simp [exceedingWidths?, hx, hy, hxTrue, hyTrue, hxy]

theorem Width.number_exceeds_number_iff {m n : ℤ} (hm : 0 < m) (hn : 0 < n) :
    (number m).Exceeds (number n) ↔ n < m := by
  have hatMost : (number m).atMost (number n) ↔ m ≤ n := by
    simp [atMost, value?, Extended.le, Extended.ofInt]
  constructor
  · intro h
    exact Int.not_le.mp fun hle => h.not_atMost (hatMost.mpr hle)
  · intro h
    have htrue : (number m).isTrue ∧ (number n).isTrue := by
      simp [isTrue, toDatum, Datum.isTrue, Scalar.isTrue]
      omega
    exact ⟨⟨rfl, rfl⟩, htrue, fun hle => Int.not_le.mpr h (hatMost.mp hle)⟩

/-! ## Connections with conflicting widths -/

/-- A connection between AXI interfaces with conflicting widths, with these. -/
def Context.conflictAt? (ctx : Context) (width : Interface → Option Width)
    (conflict? : Option Width → Option Width → Option (Width × Width)) (e : Connection) :
    Option (Connection × Interface × Interface × Width × Width) :=
  (ctx.resolver.ends? e).bind fun ends =>
    (axiFault? (fun s t => conflict? (width s) (width t)) ends.1 ends.2).map fun widths =>
      (e, ends.1, ends.2, widths)

/-- A connection is drawn between AXI interfaces, and the identifier width of the source exceeds
that of the target. -/
structure Context.IdsExceed (ctx : Context) (e : Connection) (source target : Interface)
    (a b : Width) : Prop where
  ends : ctx.resolver.resolveEdge e = (some source, some target)
  axi : source.isAxi ∧ target.isAxi
  sourceWidth : source.idWidth = some a
  targetWidth : target.idWidth = some b
  exceeds : a.Exceeds b

def Context.HasExceedingIds (ctx : Context) (e : Connection) : Prop :=
  ∃ source target a b, ctx.IdsExceed e source target a b

namespace Checks

open Outcome

variable {ctx : Context} {e : Connection} {vs : List Violation}

theorem conflictingWidths_eq {rule : Rule} {aspect : String} {width : Interface → Option Width}
    {conflict? : Option Width → Option Width → Option (Width × Width)}
    {description suggestion : String → String → String} :
    conflictingWidths ctx rule aspect width conflict? description suggestion =
      (ctx.diagram.edges.filterMap (ctx.conflictAt? width conflict?)).mapM
        (conflictReport rule aspect description suggestion ctx) := by
  have hconflicts : (axiWired ctx).filterMap (fun wire =>
      (conflict? (width wire.2.1) (width wire.2.2)).map fun widths =>
        (wire.1, wire.2.1, wire.2.2, widths)) =
      ctx.diagram.edges.filterMap (ctx.conflictAt? width conflict?) := by
    rw [@filterMap_axiWired _ _ fun s t => conflict? (width s) (width t), Context.wired,
      List.filterMap_filterMap]
    refine List.filterMap_congr fun e _ => ?_
    rw [Context.conflictAt?, Option.bind_map]
    rfl
  rw [← hconflicts]
  rfl

theorem conflictAt?_eq_some_iff {f : Connection} {source target : Interface} {a b : Width} :
    ctx.conflictAt? (·.idWidth) exceedingWidths? e = some (f, source, target, a, b) ↔
      f = e ∧ ctx.IdsExceed e source target a b := by
  simp only [Context.conflictAt?, axiFault?, Option.bind_eq_some_iff, Option.map_eq_some_iff,
    Prod.mk.injEq, Option.ite_none_right_eq_some, Bool.and_eq_true]
  constructor
  · rintro ⟨⟨s, t⟩, hends, widths, ⟨haxi, hwidths⟩, rfl, rfl, rfl, rfl⟩
    obtain ⟨ha, hb, hexceeds⟩ := exceedingWidths?_eq_some_iff.mp hwidths
    exact ⟨rfl, ends?_eq_some_iff.mp hends, haxi, ha, hb, hexceeds⟩
  · rintro ⟨rfl, h⟩
    have hwidths := exceedingWidths?_eq_some_iff.mpr ⟨h.sourceWidth, h.targetWidth, h.exceeds⟩
    have hends := ends?_eq_some_iff.mpr h.ends
    exact ⟨(source, target), hends, (a, b), ⟨h.axi, hwidths⟩, rfl, rfl, rfl, rfl⟩

theorem isSome_conflictAt?_iff :
    (ctx.conflictAt? (·.idWidth) exceedingWidths? e).isSome ↔ ctx.HasExceedingIds e := by
  rw [Option.isSome_iff_exists]
  constructor
  · rintro ⟨⟨f, source, target, a, b⟩, h⟩
    exact ⟨source, target, a, b, (conflictAt?_eq_some_iff.mp h).2⟩
  · rintro ⟨source, target, a, b, h⟩
    exact ⟨_, conflictAt?_eq_some_iff.mpr ⟨rfl, h⟩⟩

instance (ctx : Context) : DecidablePred ctx.HasExceedingIds :=
  fun _ => decidable_of_iff _ isSome_conflictAt?_iff

/-! ## What is reported -/

/-- The violation reports a connection, its two interfaces and their identifier widths. -/
structure ReportsIdWidths (v : Violation) (e : Connection) (source target : Interface)
    (a b : Width) : Prop where
  ruleId : v.ruleId = Rule.idWidthCompatibility.code
  components : v.affectedComponents = some [e.source, e.target]
  interfaces : v.affectedInterfaces = some [source.id, target.id]
  connections : v.affectedConnections = some (edgeIds [e])
  sourceWidth : v.detail? ["source", "idWidth"] = some a.toDatum
  targetWidth : v.detail? ["target", "idWidth"] = some b.toDatum

theorem reportsIdWidths_of_conflictReport {description suggestion : String → String → String}
    {source target : Interface} {a b : Width} {v : Violation}
    (h : conflictReport .idWidthCompatibility "idWidth" description suggestion ctx
      (e, source, target, a, b) = .ok v) : ReportsIdWidths v e source target a b := by
  obtain ⟨sourceText, -, h⟩ := bind_eq_ok_iff.mp h
  obtain ⟨targetText, -, h⟩ := bind_eq_ok_iff.mp h
  obtain rfl := Except.ok.inj h
  exact ⟨rfl, rfl, rfl, rfl, rfl, rfl⟩

/-- Exactly the connections with exceeding widths are reported, in their order. -/
theorem forall₂_idWidthCompatibility (h : idWidthCompatibility ctx = .ok vs) :
    List.Forall₂ (fun v e => ∃ source target a b, ctx.IdsExceed e source target a b ∧
      ReportsIdWidths v e source target a b) vs
      (ctx.diagram.edges.filter fun e => ctx.HasExceedingIds e) := by
  rw [idWidthCompatibility, conflictingWidths_eq, mapM_eq_ok_iff] at h
  refine forall₂_of_forall₂ ?_ h (forall₂_filterMap_filter
    (R := fun found e => ctx.conflictAt? (·.idWidth) exceedingWidths? e = some found)
    (fun e => isSome_conflictAt?_iff) (fun e found hfound => hfound) _)
  rintro ⟨f, source, target, a, b⟩ v e hv he
  obtain ⟨rfl, hexceed⟩ := conflictAt?_eq_some_iff.mp he
  exact ⟨source, target, a, b, hexceed, reportsIdWidths_of_conflictReport hv⟩

theorem exists_idWidthCompatibility_iff : (∃ vs, idWidthCompatibility ctx = .ok vs) ↔
    ∀ e ∈ ctx.diagram.edges, ∀ source target a b, ctx.IdsExceed e source target a b →
      a.IsWritable ∧ b.IsWritable := by
  refine exists_conflictingWidths_iff.trans ?_
  constructor
  · intro h e he source target a b hexceed
    exact h _ (mem_wired_iff.mpr ⟨he, hexceed.ends⟩) hexceed.axi.1 hexceed.axi.2 a b
      (exceedingWidths?_eq_some_iff.mpr ⟨hexceed.sourceWidth, hexceed.targetWidth, hexceed.exceeds⟩)
  · rintro h ⟨e, source, target⟩ hwire hsource htarget a b hwidths
    obtain ⟨he, hends⟩ := mem_wired_iff.mp hwire
    obtain ⟨ha, hb, hexceeds⟩ := exceedingWidths?_eq_some_iff.mp hwidths
    exact h e he source target a b ⟨hends, ⟨hsource, htarget⟩, ha, hb, hexceeds⟩

/-! ## Masters and slaves -/

/-- A connection joins a master and a slave, both AXI and with positive identifier widths. It may be
drawn either way. -/
structure JoinsIds (ctx : Context) (e : Connection) (master slave : Interface) (m n : ℤ) :
    Prop where
  ends : ctx.resolver.resolveEdge e = (some master, some slave) ∨
    ctx.resolver.resolveEdge e = (some slave, some master)
  directions : master.direction = .master ∧ slave.direction = .slave
  axi : master.isAxi ∧ slave.isAxi
  masterWidth : master.idWidth = some (.number m)
  slaveWidth : slave.idWidth = some (.number n)
  positive : 0 < m ∧ 0 < n

theorem hasExceedingIds_iff_lt {source target : Interface} {m n : ℤ}
    (hends : ctx.resolver.resolveEdge e = (some source, some target))
    (haxi : source.isAxi ∧ target.isAxi) (hsource : source.idWidth = some (.number m))
    (htarget : target.idWidth = some (.number n)) (hm : 0 < m) (hn : 0 < n) :
    ctx.HasExceedingIds e ↔ n < m := by
  constructor
  · rintro ⟨s, t, a, b, h⟩
    obtain ⟨hs, ht⟩ := Prod.mk.inj (hends.symm.trans h.ends)
    obtain rfl := Option.some.inj hs
    obtain rfl := Option.some.inj ht
    obtain rfl := Option.some.inj (hsource.symm.trans h.sourceWidth)
    obtain rfl := Option.some.inj (htarget.symm.trans h.targetWidth)
    exact (Width.number_exceeds_number_iff hm hn).mp h.exceeds
  · intro h
    exact ⟨source, target, _, _, hends, haxi, hsource, htarget,
      (Width.number_exceeds_number_iff hm hn).mpr h⟩

theorem JoinsIds.hasExceedingIds_iff {master slave : Interface} {m n : ℤ}
    (h : JoinsIds ctx e master slave m n) :
    (ctx.resolver.resolveEdge e = (some master, some slave) ∧ (ctx.HasExceedingIds e ↔ n < m)) ∨
      (ctx.resolver.resolveEdge e = (some slave, some master) ∧
        (ctx.HasExceedingIds e ↔ m < n)) := by
  obtain ⟨hm, hn⟩ := h.positive
  rcases h.ends with hends | hends
  · exact .inl ⟨hends, hasExceedingIds_iff_lt hends h.axi h.masterWidth h.slaveWidth hm hn⟩
  · exact .inr ⟨hends, hasExceedingIds_iff_lt hends h.axi.symm h.slaveWidth h.masterWidth hn hm⟩

theorem JoinsIds.ne {master slave : Interface} {m n : ℤ}
    (h : JoinsIds ctx e master slave m n) : master ≠ slave := by
  rintro rfl
  exact absurd (h.directions.1.symm.trans h.directions.2) (by decide)

/-- The check returns if the widths that it reports can be written, and then it reports exactly the
connections at which the width of the source exceeds that of the target. Between a master and a
slave these are the ones where the width of the master exceeds that of the slave exactly if the
connection is drawn from the master or the two widths are the same. -/
theorem idWidthCompatibility_exact (ctx : Context) :
    ((∃ vs, idWidthCompatibility ctx = .ok vs) ↔
      ∀ e ∈ ctx.diagram.edges, ∀ source target a b, ctx.IdsExceed e source target a b →
        a.IsWritable ∧ b.IsWritable) ∧
    (∀ vs, idWidthCompatibility ctx = .ok vs →
      List.Forall₂ (fun v e => ∃ source target a b, ctx.IdsExceed e source target a b ∧
        ReportsIdWidths v e source target a b) vs
        (ctx.diagram.edges.filter fun e => ctx.HasExceedingIds e)) ∧
    ∀ e master slave m n, JoinsIds ctx e master slave m n →
      ((ctx.HasExceedingIds e ↔ n < m) ↔
        ctx.resolver.resolveEdge e = (some master, some slave) ∨ m = n) := by
  refine ⟨exists_idWidthCompatibility_iff, fun vs => forall₂_idWidthCompatibility, ?_⟩
  intro e master slave m n h
  rcases h.hasExceedingIds_iff with ⟨hends, hexceeds⟩ | ⟨hends, hexceeds⟩
  · rw [hexceeds]
    exact iff_of_true Iff.rfl (.inl hends)
  · -- drawn from the slave, the answer is `m < n`, which is `n < m` for equal widths only
    have hdrawn : ctx.resolver.resolveEdge e ≠ (some master, some slave) := by
      intro hforward
      obtain ⟨hslave, -⟩ := Prod.mk.inj (hends.symm.trans hforward)
      exact h.ne (Option.some.inj hslave).symm
    rw [hexceeds, or_iff_right hdrawn]
    omega

/-- An AXI interface with an identifier width. -/
def axiPort (direction : Direction) (idWidth : ℤ) : Interface where
  id := "p"
  name := "p"
  busType := some "AXI4"
  direction := direction
  dataWidth := none
  addrWidth := none
  idWidth := some (.number idWidth)
  speed := none
  protocol := none
  optional := false
  declared := ["busType", "direction", "id", "idWidth", "name"]

/-- A connection from a processor to a memory. -/
def toMemory : Connection := ⟨"e0", "cpu", "mem", none, none, none⟩

/-- A connection from a memory to a processor. -/
def toProcessor : Connection := ⟨"e1", "mem", "cpu", none, none, none⟩

/-- A processor with a master of one width and a memory with a slave of another, connected both
ways. -/
def joinedBothWays (masterWidth slaveWidth : ℤ) : Context := Context.usual.on
  { nodes :=
      [⟨"cpu", "CPU", none, none, none, none, none, none, [axiPort .master masterWidth]⟩,
       ⟨"mem", "MEM", none, none, none, none, none, none, [axiPort .slave slaveWidth]⟩]
    edges := [toMemory, toProcessor] }

/-- A wide master is found at the connection that is drawn from it. -/
theorem idWidthCompatibility_wideMaster :
    JoinsIds (joinedBothWays 8 4) toMemory (axiPort .master 8) (axiPort .slave 4) 8 4 ∧
    ((joinedBothWays 8 4).HasExceedingIds toMemory ↔ (4 : ℤ) < 8) ∧
    ∃ vs, idWidthCompatibility (joinedBothWays 8 4) = .ok vs ∧
      vs.map (·.affectedConnections) = [some ["e0"]] := by
  have hends : (joinedBothWays 8 4).resolver.resolveEdge toMemory =
      (some (axiPort .master 8), some (axiPort .slave 4)) := by decide
  have hjoins : JoinsIds (joinedBothWays 8 4) toMemory (axiPort .master 8) (axiPort .slave 4) 8 4 :=
    ⟨.inl hends, ⟨rfl, rfl⟩, by decide, rfl, rfl, by decide⟩
  have hreported : (idWidthCompatibility (joinedBothWays 8 4)).map
      (List.map (·.affectedConnections)) = .ok [some ["e0"]] := by
    decide +kernel
  obtain ⟨-, -, hwidths⟩ := idWidthCompatibility_exact (joinedBothWays 8 4)
  exact ⟨hjoins, (hwidths _ _ _ _ _ hjoins).mpr (.inl hends), map_eq_ok_iff.mp hreported⟩

/-- A narrow master is found at the connection that is drawn to it. -/
theorem idWidthCompatibility_narrowMaster :
    JoinsIds (joinedBothWays 4 8) toProcessor (axiPort .master 4) (axiPort .slave 8) 4 8 ∧
    ∃ vs, idWidthCompatibility (joinedBothWays 4 8) = .ok vs ∧
      vs.map (·.affectedConnections) = [some ["e1"]] := by
  have hends : (joinedBothWays 4 8).resolver.resolveEdge toProcessor =
      (some (axiPort .slave 8), some (axiPort .master 4)) := by decide
  have hreported : (idWidthCompatibility (joinedBothWays 4 8)).map
      (List.map (·.affectedConnections)) = .ok [some ["e1"]] := by
    decide +kernel
  exact ⟨⟨.inr hends, ⟨rfl, rfl⟩, by decide, rfl, rfl, by decide⟩, map_eq_ok_iff.mp hreported⟩

end Checks

end DesignRules
