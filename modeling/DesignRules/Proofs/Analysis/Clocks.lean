import DesignRules.Proofs.Analysis.Findings
import DesignRules.Proofs.Checks.Locality

/-! # Clocks at the ends of connections

Two checks look at the clocks of wired interfaces, one of them only where both interfaces are
AXI. What this one reports is what the other reports of the same connections, in other words.
-/

namespace DesignRules

/-- Both interfaces have a bus type that speaks of AXI, in any letter case. -/
def JoinsAxi (wire : Connection × Interface × Interface) : Prop :=
  (∃ bus ∈ wire.2.1.busType, Text.contains (Text.lower bus) "axi") ∧
    ∃ bus ∈ wire.2.2.busType, Text.contains (Text.lower bus) "axi"

/-- Both interfaces name a clock, and not the same one. -/
def CrossesClocks (wire : Connection × Interface × Interface) : Prop :=
  ∃ a ∈ wire.2.1.speed, ∃ b ∈ wire.2.2.speed, a ≠ "" ∧ b ≠ "" ∧ a ≠ b

instance : DecidablePred JoinsAxi := fun _ => inferInstanceAs (Decidable (_ ∧ _))

instance : DecidablePred CrossesClocks := fun wire =>
  inferInstanceAs (Decidable (∃ a ∈ wire.2.1.speed, ∃ b ∈ wire.2.2.speed, a ≠ "" ∧ b ≠ "" ∧ a ≠ b))

/-- A violation reports the clocks of an AXI connection and another one the crossing from one to
the other clock. -/
structure SameClocks (v crossing : Violation) : Prop where
  components : v.affectedComponents = crossing.affectedComponents
  connections : v.affectedConnections = crossing.affectedConnections
  clocks : ∃ a b : String,
    v.detail? ["source", "speed"] = some (.text a) ∧
    v.detail? ["target", "speed"] = some (.text b) ∧
    v.description = "Clock frequency mismatch: " ++ a ++ " → " ++ b ∧
    crossing.detail? ["sourceClockFreq"] = some (.text a) ∧
    crossing.detail? ["targetClockFreq"] = some (.text b) ∧
    crossing.description = "Clock domain crossing detected: " ++ a ++ " → " ++ b

/-! ## Faulty items and their reports -/

section Raised

variable {α β γ δ : Type} {fault? : α → Option β} {report : α → β → γ} {l : List α}

/-- The faulty items, each with what is reported about it. -/
def raised (fault? : α → Option β) (report : α → β → γ) (l : List α) : List (α × γ) :=
  l.filterMap fun a => (fault? a).map fun b => (a, report a b)

theorem map_fst_raised : (raised fault? report l).map Prod.fst =
    l.filter fun a => (fault? a).isSome := by
  rw [raised, List.map_filterMap, ← List.filterMap_eq_filter]
  refine List.filterMap_congr fun a _ => ?_
  cases h : fault? a <;> simp [Option.guard, h]

theorem map_snd_raised : (raised fault? report l).map Prod.snd =
    l.filterMap fun a => (fault? a).map (report a) := by
  rw [raised, List.map_filterMap]
  refine List.filterMap_congr fun a _ => ?_
  rw [Option.map_map]
  rfl

theorem filter_raised (p : α → Bool) : (raised fault? report l).filter (fun entry => p entry.1) =
    raised fault? report (l.filter p) := by
  rw [raised, raised, List.filter_filterMap, List.filterMap_filter]
  refine List.filterMap_congr fun a _ => ?_
  cases fault? a <;> cases h : p a <;> simp [h]

theorem exists_of_mem_raised {entry : α × γ} (h : entry ∈ raised fault? report l) :
    ∃ b, fault? entry.1 = some b ∧ report entry.1 b = entry.2 := by
  obtain ⟨a, -, ha⟩ := List.mem_filterMap.mp h
  obtain ⟨b, hb, rfl⟩ := Option.map_eq_some_iff.mp ha
  exact ⟨b, hb, rfl⟩

/-- Two ways to report the same faults of the same items correspond one to one. -/
theorem forall₂_filterMap_reports {report' : α → β → δ} {r : γ → δ → Prop}
    (h : ∀ a b, r (report a b) (report' a b)) (l : List α) :
    List.Forall₂ r (l.filterMap fun a => (fault? a).map (report a))
      (l.filterMap fun a => (fault? a).map (report' a)) := by
  induction l with
  | nil => exact .nil
  | cons a l ih =>
    rw [List.filterMap_cons, List.filterMap_cons]
    cases fault? a with
    | none => exact ih
    | some b => exact .cons (h a b) ih

end Raised

/-! ## Both checks -/

namespace Checks

variable {source target : Interface} {wire : Connection × Interface × Interface}

theorem isAxi_iff {i : Interface} :
    i.isAxi ↔ ∃ bus ∈ i.busType, Text.contains (Text.lower bus) "axi" := by
  cases h : i.busType <;> simp [Interface.isAxi, BusType.isAxi, h]

theorem axiWired_eq (ctx : Context) : axiWired ctx = ctx.wired.filter (JoinsAxi ·) := by
  refine List.filter_congr fun wire _ => ?_
  rw [Bool.eq_iff_iff, Bool.and_eq_true, decide_eq_true_iff, JoinsAxi, ← isAxi_iff, ← isAxi_iff]

theorem isSome_differingClocks?_iff :
    (differingClocks? wire.2.1 wire.2.2).isSome ↔ CrossesClocks wire := by
  unfold differingClocks?
  constructor
  · intro h
    split at h
    case h_1 a b ha hb =>
      obtain ⟨hs, hsource⟩ := filled_eq_some_iff.mp ha
      obtain ⟨ht, htarget⟩ := filled_eq_some_iff.mp hb
      exact ⟨a, hs, b, ht, hsource, htarget, by simpa using h⟩
    case h_2 => cases h
  · rintro ⟨a, hs, b, ht, hsource, htarget, hne⟩
    simp [filled_eq_some_iff.mpr ⟨hs, hsource⟩, filled_eq_some_iff.mpr ⟨ht, htarget⟩, hne]

/-- The check of clock domains reports each crossing in one way, and of an AXI connection the other
check says the same. -/
theorem exists_crossingReport (ctx : Context) :
    ∃ report : Connection × Interface × Interface → String × String → Violation,
      (clockDomainCrossing ctx = ctx.wired.filterMap fun wire =>
        (differingClocks? wire.2.1 wire.2.2).map (report wire)) ∧
      (∀ wire clocks,
        (report wire clocks).affectedComponents = some [wire.1.source, wire.1.target] ∧
        (report wire clocks).affectedConnections = some (edgeIds [wire.1])) ∧
      List.Forall₂ SameClocks (clockCompatibility ctx)
        ((axiWired ctx).filterMap fun wire =>
          (differingClocks? wire.2.1 wire.2.2).map (report wire)) := by
  refine ⟨_, rfl, fun wire clocks => ⟨rfl, rfl⟩, ?_⟩
  refine forall₂_filterMap_reports (fun wire clocks => ?_) (axiWired ctx)
  exact
    { components := rfl
      connections := rfl
      clocks := ⟨clocks.1, clocks.2, rfl, rfl, rfl, rfl, rfl, rfl⟩ }

end Checks

namespace Analysis

open Checks Outcome

variable {ctx : Context} {timestamp : String} {run : Run}

/-- The clock domain crossings of a run are one for each connection whose interfaces name different
clocks. The clock mismatches of AXI connections are, one for one and in order, those of the
crossings whose connection joins two AXI interfaces. -/
theorem run_clocks (h : Analysis.run timestamp ctx = .ok run) :
    ∃ crossings : List ((Connection × Interface × Interface) × Violation),
      crossings.map Prod.fst = ctx.wired.filter (CrossesClocks ·) ∧
      crossings.map Prod.snd = run.findings .clockDomainCrossing ∧
      (∀ crossing ∈ crossings,
        crossing.2.affectedComponents = some [crossing.1.1.source, crossing.1.1.target] ∧
        crossing.2.affectedConnections = some (edgeIds [crossing.1.1])) ∧
      List.Forall₂ SameClocks (run.findings .clockCompatibility)
        ((crossings.filter fun crossing => JoinsAxi crossing.1).map Prod.snd) := by
  have haxi : clockCompatibility ctx = run.findings .clockCompatibility :=
    Except.ok.inj (findings_eq_of_singleton h (i := 9) rfl rfl)
  have hcrossing : clockDomainCrossing ctx = run.findings .clockDomainCrossing :=
    Except.ok.inj (findings_eq_of_singleton h (i := 16) rfl rfl)
  obtain ⟨report, heq, hends, hsame⟩ := exists_crossingReport ctx
  refine ⟨raised (fun wire => differingClocks? wire.2.1 wire.2.2) report ctx.wired, ?_, ?_, ?_, ?_⟩
  · rw [map_fst_raised]
    refine List.filter_congr fun wire _ => ?_
    rw [Bool.eq_iff_iff, decide_eq_true_iff]
    exact isSome_differingClocks?_iff
  · rw [map_snd_raised, ← heq, hcrossing]
  · intro crossing hmem
    obtain ⟨clocks, -, hreport⟩ := exists_of_mem_raised hmem
    exact hreport ▸ hends crossing.1 clocks
  · rwa [filter_raised (fun wire => decide (JoinsAxi wire)), map_snd_raised, ← axiWired_eq, ← haxi]

/-- A processor with a fast AXI port and a slow other one, beside a memory and a serial port. -/
def twoClocks : Diagram where
  nodes :=
    [⟨"cpu", "CPU", none, none, none, none, none, none,
       [⟨"m", "m_axi", some "AXI4", .master, none, none, none, some "1 GHz", none, false, []⟩,
        ⟨"p", "p_apb", some "APB", .master, none, none, none, some "1 GHz", none, false, []⟩]⟩,
     ⟨"mem", "Memory", none, none, none, none, none, none,
       [⟨"s", "s_axi", some "axi", .slave, none, none, none, some "800 MHz", none, false, []⟩]⟩,
     ⟨"uart", "UART", none, none, none, none, none, none,
       [⟨"s", "s_apb", some "APB", .slave, none, none, none, some "50 MHz", none, false, []⟩]⟩]
  edges :=
    [⟨"e0", "cpu", "mem", none, none, none⟩, ⟨"e1", "cpu", "uart", some "p", some "s", none⟩,
     ⟨"e2", "cpu", "mem", some "m", some "s", none⟩]

/-- Three crossings, of which the first and the last are at AXI connections. -/
theorem run_twoClocks : ∃ run, Analysis.run "" (Context.usual.on twoClocks) = .ok run ∧
    (run.findings .clockDomainCrossing).map (·.affectedConnections) =
      [some ["e0"], some ["e1"], some ["e2"]] ∧
    (run.findings .clockCompatibility).map (·.affectedConnections) = [some ["e0"], some ["e2"]] ∧
    ∃ crossings : List ((Connection × Interface × Interface) × Violation),
      crossings.map Prod.snd = run.findings .clockDomainCrossing ∧
      List.Forall₂ SameClocks (run.findings .clockCompatibility)
        ((crossings.filter fun crossing => JoinsAxi crossing.1).map Prod.snd) := by
  have hends : (Analysis.run "" (Context.usual.on twoClocks)).map
      (fun run => ((run.findings .clockDomainCrossing).map (·.affectedConnections),
        (run.findings .clockCompatibility).map (·.affectedConnections))) =
        .ok ([some ["e0"], some ["e1"], some ["e2"]], [some ["e0"], some ["e2"]]) := by
    decide +kernel
  obtain ⟨run, h, hends⟩ := map_eq_ok_iff.mp hends
  obtain ⟨hcrossing, haxi⟩ := Prod.mk.inj hends
  obtain ⟨crossings, -, hsnd, -, hsame⟩ := run_clocks h
  exact ⟨run, h, hcrossing, haxi, crossings, hsnd, hsame⟩

end Analysis

end DesignRules
