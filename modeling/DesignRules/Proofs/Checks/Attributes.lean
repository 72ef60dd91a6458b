import DesignRules.Proofs.Checks.Reports
import Mathlib.Data.List.TakeWhile

/-! # Attributes

Labels are not blank and data widths are positive exactly if their checks find nothing
critical.
-/

namespace DesignRules

namespace Text

theorem trimEnd_eq_nil_iff {cs : List Char} : trimEnd cs = [] ↔ ∀ c ∈ cs, isBlank c := by
  simp [trimEnd, List.dropWhile_eq_nil_iff]

theorem trimChars_eq_nil_iff {cs : List Char} : trimChars cs = [] ↔ ∀ c ∈ cs, isBlank c := by
  rw [trimChars, trimEnd_eq_nil_iff]
  constructor
  · intro h c hc
    rw [← List.takeWhile_append_dropWhile (p := isBlank) (l := cs), List.mem_append] at hc
    exact hc.elim List.mem_takeWhile_imp (h c)
  · exact fun h c hc => h c ((List.dropWhile_sublist _).subset hc)

end Text

namespace Checks

open Check Outcome

variable {ctx : Context} {vs : List Violation}

theorem hasBlankLabel_iff {n : Node} : hasBlankLabel n ↔ ∀ c ∈ n.label.toList, Text.isBlank c := by
  rw [hasBlankLabel, beq_iff_eq, Text.trim, ← Text.trimChars_eq_nil_iff, String.ofList_eq_empty_iff]

theorem clean_requiredLabel_iff : (ofPure requiredLabel).Clean ctx ↔
    ∀ n ∈ ctx.diagram.nodes, ∃ c ∈ n.label.toList, ¬ Text.isBlank c := by
  rw [clean_ofPure_iff_eq_nil reportsOnly_requiredLabel rfl (by decide), requiredLabel,
    List.map_eq_nil_iff, List.filter_eq_nil_iff]
  simp only [hasBlankLabel_iff, not_forall, exists_prop]

/-! ## Data widths -/

/-- What is reported about an interface is critical unless its width is a positive number. -/
theorem severity_of_widthViolation? {node : String} {i : Interface} {o : Option Violation}
    (h : widthViolation? ctx node i = .ok o) :
    (∀ v ∈ o, v.severity ≠ .critical) ↔ ∃ w, i.dataWidth = some w ∧ w.IsPositive := by
  cases hw : i.dataWidth with
  | none =>
    rw [widthViolation?_of_eq_none hw] at h
    obtain rfl := Except.ok.inj h
    simp [missingWidth, Rule.violation, Rule.violationAt, Rule.severity]
  | some w =>
    rw [widthViolation?_of_eq_some hw] at h
    obtain ⟨valid, hvalid, h⟩ := bind_eq_ok_iff.mp h
    simp only [Option.some.injEq, exists_eq_left', ← (isValidWidth_eq_ok_iff.mp hvalid).2]
    split at h
    case isTrue hv =>
      split at h
      case isTrue =>
        obtain rfl := Except.ok.inj h
        simp [hv]
      case isFalse =>
        obtain ⟨v, hunusual, rfl⟩ := map_eq_ok_iff.mp h
        simp [hv, (reports_of_unusualWidth hunusual).severity_eq, Rule.severity]
    case isFalse hv =>
      obtain ⟨v, hinvalid, rfl⟩ := map_eq_ok_iff.mp h
      simp [hv, (reports_of_invalidWidth hinvalid).severity_eq, Rule.severity]

theorem forall_mem_ports_iff {p : Interface → Prop} : (∀ port ∈ ports ctx, p port.2) ↔
    ∀ n ∈ ctx.diagram.nodes, ∀ i ∈ ctx.interfaces n.id, p i := by
  simp only [ports, List.forall_mem_flatMap, List.forall_mem_map]

theorem clean_dataWidths_iff (h : dataWidths ctx = .ok vs) : Check.Clean dataWidths ctx ↔
    ∀ n ∈ ctx.diagram.nodes, ∀ i ∈ ctx.interfaces n.id,
      ∃ w, i.dataWidth = some w ∧ w.IsPositive := by
  rw [← forall_mem_ports_iff (p := fun i => ∃ w, i.dataWidth = some w ∧ w.IsPositive)]
  obtain ⟨found, hfound, rfl⟩ := map_eq_ok_iff.mp h
  constructor
  · intro hclean port hport
    obtain ⟨o, ho⟩ := exists_mapM_eq_ok_iff.mp ⟨found, hfound⟩ port hport
    refine (severity_of_widthViolation? ho).mp fun v hv => hclean _ h v ?_
    exact List.mem_filterMap.mpr ⟨o, (mem_of_mapM_eq_ok hfound).mpr ⟨port, hport, ho⟩, hv⟩
  · intro hpos us hus v hv
    rw [h] at hus
    obtain rfl := Except.ok.inj hus
    obtain ⟨o, ho, hv⟩ := List.mem_filterMap.mp hv
    obtain ⟨port, hport, ho⟩ := (mem_of_mapM_eq_ok hfound).mp ho
    exact (severity_of_widthViolation? ho).mpr (hpos port hport) v hv

end Checks

end DesignRules
