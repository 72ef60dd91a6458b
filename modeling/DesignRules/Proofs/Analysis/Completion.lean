import DesignRules.Diagram.Reading
import DesignRules.Proofs.Analysis.Findings
import DesignRules.Proofs.Checks.AddressMap
import DesignRules.Proofs.Checks.Attributes
import DesignRules.Proofs.Checks.Connections

/-! # Completion

A run ends with a result exactly if the pattern for names can be compiled and no number of the
design or the settings is too large for a check that needs it.
-/

namespace DesignRules

open Checks in
/-- No number is too large for a check that compares or writes it. -/
@[mk_iff]
structure Context.Tractable (ctx : Context) : Prop where
  sizes : ∀ n ∈ ctx.diagram.nodes, n.IsReadable
  dataWidths : ∀ n ∈ ctx.diagram.nodes, ∀ i ∈ ctx.interfaces n.id, ∀ w, i.dataWidth = some w →
    CanJudge ctx w
  idWidths : ∀ wire ∈ ctx.wired, wire.2.1.isAxi → wire.2.2.isAxi → ∀ a b,
    exceedingWidths? wire.2.1.idWidth wire.2.2.idWidth = some (a, b) → a.IsWritable ∧ b.IsWritable
  addrWidths : ∀ wire ∈ ctx.wired, wire.2.1.isAxi → wire.2.2.isAxi → ∀ a b,
    differingWidths? wire.2.1.addrWidth wire.2.2.addrWidth = some (a, b) →
      a.IsWritable ∧ b.IsWritable

namespace Analysis

open Check Checks Outcome

variable {ctx : Context} {timestamp : String}

theorem exists_run_iff_forall_checks : (∃ run, Analysis.run timestamp ctx = .ok run) ↔
    ∀ check ∈ checks, ∃ vs, check ctx = .ok vs := by
  rw [Analysis.run, exists_map_eq_ok_iff, violations, exists_map_eq_ok_iff, exists_mapM_eq_ok_iff]

theorem exists_dataWidths_iff : (∃ vs, dataWidths ctx = .ok vs) ↔
    ∀ n ∈ ctx.diagram.nodes, ∀ i ∈ ctx.interfaces n.id, ∀ w, i.dataWidth = some w →
      CanJudge ctx w := by
  rw [dataWidths, exists_map_eq_ok_iff, exists_mapM_eq_ok_iff]
  simp only [exists_widthViolation?_iff]
  exact forall_mem_ports_iff (p := fun i => ∀ w, i.dataWidth = some w → CanJudge ctx w)

theorem exists_interfaceNaming_iff : (∃ vs, interfaceNaming ctx = .ok vs) ↔
    ∃ isName, nameTest ctx = .ok isName := by
  unfold interfaceNaming
  split <;> simp_all

/-- The checks that may fail. -/
theorem exists_run_iff_checks : (∃ run, Analysis.run timestamp ctx = .ok run) ↔
    (∃ vs, dataWidthMatching ctx = .ok vs) ∧ (∃ vs, idWidthCompatibility ctx = .ok vs) ∧
    (∃ vs, addrWidthConsistency ctx = .ok vs) ∧ (∃ vs, addressOverlap ctx = .ok vs) ∧
    (∃ vs, addressAlignment ctx = .ok vs) ∧ (∃ vs, reservedAddress ctx = .ok vs) ∧
    (∃ vs, dataWidths ctx = .ok vs) ∧ ∃ vs, interfaceNaming ctx = .ok vs := by
  rw [exists_run_iff_forall_checks]
  simp only [checks_eq, List.forall_mem_cons, List.not_mem_nil, false_imp_iff, implies_true,
    and_true, ofPure_eq_ok_iff, exists_eq', true_and]

/-- Data widths that can be judged can be written. -/
theorem exists_dataWidthMatching (h : ∀ n ∈ ctx.diagram.nodes, ∀ i ∈ ctx.interfaces n.id,
    ∀ w, i.dataWidth = some w → ¬ w.IsBeyond) : ∃ vs, dataWidthMatching ctx = .ok vs := by
  refine exists_conflictingWidths_iff.mpr ?_
  rintro ⟨e, source, target⟩ hwire - - a b hab
  obtain ⟨⟨m, hm, hs⟩, n, hn, ht⟩ := mem_interfaces_of_mem_wired hwire
  obtain ⟨ha, hb⟩ := eq_some_of_differingWidths? hab
  exact ⟨Width.isWritable_of_not_isBeyond (h m hm source hs a ha),
    Width.isWritable_of_not_isBeyond (h n hn target ht b hb)⟩

/-- A run ends with a result exactly if the pattern is one that the engine compiles and all numbers
are small enough. -/
theorem exists_run_iff (ctx : Context) (timestamp : String) :
    (∃ run, Analysis.run timestamp ctx = .ok run) ↔
      (∃ isName, ctx.patterns.compile ctx.settings.namePattern = .ok isName) ∧ ctx.Tractable := by
  rw [exists_run_iff_checks, Context.tractable_iff, exists_interfaceNaming_iff,
    exists_dataWidths_iff, nameTest]
  simp only [idWidthCompatibility, addrWidthConsistency, exists_conflictingWidths_iff,
    addressOverlap, addressAlignment, reservedAddress, exists_map_eq_ok_iff,
    exists_addressRanges_iff]
  constructor
  · rintro ⟨-, hid, haddr, hsizes, -, -, hdata, hpattern⟩
    exact ⟨hpattern, hsizes, hdata, hid, haddr⟩
  · rintro ⟨hpattern, hsizes, hdata, hid, haddr⟩
    have hmatching := exists_dataWidthMatching fun n hn i hi w hw => (hdata n hn i hi w hw).1
    exact ⟨hmatching, hid, haddr, hsizes, hsizes, hsizes, hdata, hpattern⟩

/-- A component with one interface whose data width no float comes near. -/
def vastWidth : Datum := .object
  [("nodes", .list [.object [("id", .text "cpu"), ("interfaces", .list [.object
      [("id", .text "p"), ("dataWidth", .int (Int.pow 10 400))]])]]),
   ("edges", .list [])]

/-- A diagram that can be read, with settings whose pattern is well formed, makes a run fail. -/
theorem run_vastWidth_fails : ∃ d, Diagram.read vastWidth = .ok d ∧
    (∃ p, Pattern.ofText Settings.default.namePattern = .ok p) ∧
    Analysis.run "" ⟨⟨d, []⟩, ⟨false⟩, Settings.default, none⟩ = .error .beyondFloats := by
  have hread : (Diagram.read vastWidth).map (fun d =>
      (Analysis.run "" ⟨⟨d, []⟩, ⟨false⟩, Settings.default, none⟩).map fun _ => ()) =
        .ok (.error .beyondFloats) := by
    decide +kernel
  have hpattern : (Pattern.ofText Settings.default.namePattern).map (fun _ => ()) = .ok () := by
    decide +kernel
  obtain ⟨d, hd, hrun⟩ := map_eq_ok_iff.mp hread
  obtain ⟨p, hp, -⟩ := map_eq_ok_iff.mp hpattern
  exact ⟨d, hd, ⟨p, hp⟩, map_eq_error_iff.mp hrun⟩

end Analysis

end DesignRules
