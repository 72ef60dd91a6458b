import DesignRules.Proofs.Checks.Locality
import DesignRules.Proofs.Gathering

/-! # Checks of wired interfaces

Seven checks look at the two interfaces of each connection, where both are known. What
they report about a connection names its two components, and but for the words it follows
from the two interfaces.
-/

namespace DesignRules

open Outcome

/-- What a violation says without its words. -/
structure Outline where
  ruleId : String
  severity : Severity
  components : Option (List String)
  interfaces : Option (List String)
  connections : Option (List String)
  deriving DecidableEq, Repr

def Violation.outline (v : Violation) : Outline where
  ruleId := v.ruleId
  severity := v.severity
  components := v.affectedComponents
  interfaces := v.affectedInterfaces
  connections := v.affectedConnections

/-- A rule that two wired interfaces break. -/
structure Breach where
  rule : Rule
  severity : Severity
  interfaces : Option (List String)

/-- A breach at the two ends of a connection. -/
def Breach.outlineAt (b : Breach) (e : Connection) : Outline where
  ruleId := b.rule.code
  severity := b.severity
  components := some [e.source, e.target]
  interfaces := b.interfaces
  connections := some (edgeIds [e])

/-- The check judges each pair of wired interfaces by itself. Its words depend on what is known
about the two components, the rest on the two interfaces only. -/
structure Check.JudgesWires (check : Check)
    (judge : Context → Connection × Interface × Interface → Except CheckFailure (List Violation))
    (breach? : Interface → Interface → Except CheckFailure (Option Breach)) : Prop where
  eq_gather : ∀ ctx, check ctx = gather (judge ctx) ctx.wired
  judge_congr : ∀ ctx ctx' e ends, ctx.AgreeAt ctx' e.source → ctx.AgreeAt ctx' e.target →
    judge ctx (e, ends) = judge ctx' (e, ends)
  outline_judge : ∀ ctx e s t, (judge ctx (e, s, t)).map (List.map Violation.outline) =
    (breach? s t).map fun b => (b.map (·.outlineAt e)).toList

def Check.IsWirewise (check : Check) : Prop := ∃ judge breach?, check.JudgesWires judge breach?

/-- If connections are altered and their interfaces are not, the same is found of the altered
ones. -/
theorem Check.IsWirewise.map_outline_eq {check : Check} {ctx ctx' : Context}
    {f : Connection → Connection} {k : Outline → Outline} (hcheck : check.IsWirewise)
    (hwired : ctx'.wired = ctx.wired.map fun wire => (f wire.1, wire.2))
    (houtline : ∀ (b : Breach) e, b.outlineAt (f e) = k (b.outlineAt e)) :
    (check ctx').map (List.map Violation.outline) =
      (check ctx).map (List.map fun v => k v.outline) := by
  obtain ⟨judge, breach?, hcheck⟩ := hcheck
  have hsplit : ∀ found : Except CheckFailure (List Violation),
      found.map (List.map fun v => k v.outline) =
        (found.map (List.map Violation.outline)).map (List.map k) := by
    intro found
    cases found with
    | error => rfl
    | ok vs => exact congrArg Except.ok (List.map_map).symm
  rw [hcheck.eq_gather, hcheck.eq_gather, hwired, gather_map,
    map_gather rfl (fun _ _ => List.map_append), map_gather rfl (fun _ _ => List.map_append)]
  refine gather_congr fun wire _ => ?_
  rw [hsplit, hcheck.outline_judge, hcheck.outline_judge]
  rcases breach? wire.2.1 wire.2.2 with _ | _ | b
  · rfl
  · rfl
  · exact congrArg (fun o => Except.ok [o]) (houtline b wire.1)

namespace Checks

open Check

/-- A check that lists what is wrong with each pair of wired interfaces. -/
theorem isWirewise_filterMap {α : Type} (fault? : Interface → Interface → Option α)
    (breach : Interface → Interface → α → Breach)
    {report : Context → Connection × Interface × Interface → α → Violation}
    (hlocal : ∀ ctx ctx' e ends a, ctx.AgreeAt ctx' e.source → ctx.AgreeAt ctx' e.target →
      report ctx (e, ends) a = report ctx' (e, ends) a)
    (houtline : ∀ ctx e s t a, (report ctx (e, s, t) a).outline = (breach s t a).outlineAt e) :
    (ofPure fun ctx => ctx.wired.filterMap fun wire =>
      (fault? wire.2.1 wire.2.2).map (report ctx wire)).IsWirewise := by
  refine ⟨fun ctx wire => .ok ((fault? wire.2.1 wire.2.2).map (report ctx wire)).toList,
    fun s t => .ok ((fault? s t).map (breach s t)), fun ctx => ?_, ?_, ?_⟩
  · rw [gather_ok, ← List.filterMap_eq_flatMap_toList]
    rfl
  · intro ctx ctx' e ends hs ht
    have hreport : report ctx (e, ends) = report ctx' (e, ends) :=
      funext fun a => hlocal ctx ctx' e ends a hs ht
    simp only [hreport]
  · intro ctx e s t
    cases fault? s t with
    | none => rfl
    | some a => exact congrArg (fun o => Except.ok [o]) (houtline ctx e s t a)

theorem isWirewise_roleMatching : (ofPure roleMatching).IsWirewise := by
  refine isWirewise_filterMap (fun s t => directionFault? s.direction t.direction)
    (fun s t fault => ⟨fault.rule, fault.severity, some [s.id, t.id]⟩)
    (fun ctx ctx' e ends fault hs ht => ?_) fun _ _ _ _ _ => rfl
  simp only [Context.AgreeAt.endFinding hs ht]

theorem isWirewise_busTypeMatching : (ofPure busTypeMatching).IsWirewise := by
  refine isWirewise_filterMap differingBuses?
    (fun s t _ => ⟨.busTypeMatching, .critical, some [s.id, t.id]⟩)
    (fun ctx ctx' e ends buses hs ht => ?_) fun _ _ _ _ _ => rfl
  simp only [Context.AgreeAt.endFinding hs ht]

theorem isWirewise_clockDomainCrossing : (ofPure clockDomainCrossing).IsWirewise := by
  refine isWirewise_filterMap differingClocks?
    (fun _ _ _ => ⟨.clockDomainCrossing, .warning, none⟩)
    (fun ctx ctx' e ends clocks hs ht => ?_) fun _ _ _ _ _ => rfl
  simp only [hs.label, ht.label]

/-! ## AXI connections -/

/-- What is wrong with a pair of interfaces if both are AXI. -/
def axiFault? {α : Type} (fault? : Interface → Interface → Option α) (s t : Interface) : Option α :=
  if s.isAxi && t.isAxi then fault? s t else none

theorem filterMap_axiWired {α β : Type} {fault? : Interface → Interface → Option α}
    {report : Connection × Interface × Interface → α → β} (ctx : Context) :
    (axiWired ctx).filterMap (fun wire => (fault? wire.2.1 wire.2.2).map (report wire)) =
      ctx.wired.filterMap fun wire => (axiFault? fault? wire.2.1 wire.2.2).map (report wire) := by
  rw [axiWired, List.filterMap_filter]
  refine List.filterMap_congr fun wire _ => ?_
  cases h : wire.2.1.isAxi && wire.2.2.isAxi <;> simp [axiFault?, h]

theorem isWirewise_clockCompatibility : (ofPure clockCompatibility).IsWirewise := by
  have hcheck : clockCompatibility = fun ctx => ctx.wired.filterMap fun wire =>
      (axiFault? differingClocks? wire.2.1 wire.2.2).map fun clocks =>
        Rule.clockCompatibility.violation
          (ctx.endFinding wire.1 wire.2.1 wire.2.2 "speed" (.text clocks.1) (.text clocks.2)
            ("Clock frequency mismatch: " ++ clocks.1 ++ " → " ++ clocks.2)
            "Add clock domain crossing logic or synchronize to same clock") :=
    funext fun ctx => filterMap_axiWired ctx
  rw [hcheck]
  refine isWirewise_filterMap (axiFault? differingClocks?)
    (fun s t _ => ⟨.clockCompatibility, .warning, some [s.id, t.id]⟩)
    (fun ctx ctx' e ends clocks hs ht => ?_) fun _ _ _ _ _ => rfl
  simp only [Context.AgreeAt.endFinding hs ht]

/-- What is said about a connection with two conflicting widths, if both can be written. -/
def conflictReport (rule : Rule) (aspect : String)
    (description suggestion : String → String → String) (ctx : Context) :
    Connection × Interface × Interface × Width × Width → Except CheckFailure Violation
  | (e, source, target, a, b) => do
    let sourceText ← writtenWidth a
    let targetText ← writtenWidth b
    return rule.violation (ctx.endFinding e source target aspect a.toDatum b.toDatum
      (description sourceText targetText) (suggestion sourceText targetText))

def conflictBreach (rule : Rule) (source target : Interface) (widths : Width × Width) :
    Except CheckFailure Breach := do
  let _ ← writtenWidth widths.1
  let _ ← writtenWidth widths.2
  return ⟨rule, rule.severity, some [source.id, target.id]⟩

theorem conflictReport_congr {rule : Rule} {aspect : String}
    {description suggestion : String → String → String} {ctx ctx' : Context} {e : Connection}
    {s t : Interface} {widths : Width × Width} (hs : ctx.AgreeAt ctx' e.source)
    (ht : ctx.AgreeAt ctx' e.target) :
    conflictReport rule aspect description suggestion ctx (e, s, t, widths) =
      conflictReport rule aspect description suggestion ctx' (e, s, t, widths) := by
  simp only [conflictReport, Context.AgreeAt.endFinding hs ht]

theorem isWirewise_conflictingWidths {rule : Rule} {aspect : String}
    {width : Interface → Option Width}
    {conflict? : Option Width → Option Width → Option (Width × Width)}
    {description suggestion : String → String → String} :
    Check.IsWirewise fun ctx =>
      conflictingWidths ctx rule aspect width conflict? description suggestion := by
  let fault? := axiFault? fun s t => conflict? (width s) (width t)
  refine ⟨fun ctx wire => ((fault? wire.2.1 wire.2.2).map fun widths =>
      (wire.1, wire.2.1, wire.2.2, widths)).toList.mapM
        (conflictReport rule aspect description suggestion ctx),
    fun s t => (fault? s t).mapM (conflictBreach rule s t), fun ctx => ?_, ?_, ?_⟩
  · rw [← mapM_filterMap, ← filterMap_axiWired]
    rfl
  · intro ctx ctx' e ends hs ht
    dsimp only
    cases fault? ends.1 ends.2 with
    | none => rfl
    | some widths =>
      simp only [Option.map_some, Option.toList_some, List.mapM_cons, List.mapM_nil,
        conflictReport_congr hs ht]
  · intro ctx e s t
    dsimp only
    cases fault? s t with
    | none => rfl
    | some widths =>
      obtain ⟨a, b⟩ := widths
      simp only [Option.map_some, Option.toList_some, List.mapM_cons, List.mapM_nil,
        Option.mapM_some, conflictReport, conflictBreach]
      cases writtenWidth a <;> cases writtenWidth b <;> rfl

theorem isWirewise_dataWidthMatching : Check.IsWirewise dataWidthMatching :=
  isWirewise_conflictingWidths

theorem isWirewise_idWidthCompatibility : Check.IsWirewise idWidthCompatibility :=
  isWirewise_conflictingWidths

theorem isWirewise_addrWidthConsistency : Check.IsWirewise addrWidthConsistency :=
  isWirewise_conflictingWidths

end Checks

end DesignRules
