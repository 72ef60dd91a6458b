import DesignRules.Checks.Attributes
import DesignRules.Proofs.Outcome

/-! # Judging data widths

What the check of data widths says about one interface, and when it can say anything.
-/

namespace DesignRules

namespace Width

/-- A positive number, an integer or not. Infinity is one and a NaN is none. -/
def IsPositive : Width → Prop
  | .number n => 0 < n
  | .fraction x => ∃ value, x.extended? = some value ∧ ¬ value.le (.ofInt 0)
  | _ => False

/-- An integer beyond the finite floats. -/
def IsBeyond : Width → Prop
  | .number n => Binary64.isBeyond n
  | _ => False

/-- A width that has a text. Integers of too many digits have none. -/
def IsWritable (w : Width) : Prop := w.toDatum.isWritable

/-- A finite float has fewer digits than are written. -/
theorem overflowBound_le : Binary64.overflowBound ≤ Nat.pow 10 Numeral.digitLimit := by
  have hbase : ∀ k l, Nat.pow 2 k - Nat.pow 2 l ≤ Nat.pow 10 k := fun k _ =>
    Nat.le_trans (Nat.sub_le _ _) (Nat.pow_le_pow_left (by omega) k)
  have hexponent : ∀ k l, k ≤ l → Nat.pow 10 k ≤ Nat.pow 10 l := fun _ _ =>
    Nat.pow_le_pow_right (by omega)
  rw [Binary64.overflowBound]
  exact Nat.le_trans (hbase 1024 970) (hexponent 1024 Numeral.digitLimit (by decide))

theorem isWritable_of_not_isBeyond {w : Width} (h : ¬ w.IsBeyond) : w.IsWritable := by
  cases w with
  | number n =>
    have hn : n.natAbs < Binary64.overflowBound := by simpa [IsBeyond, Binary64.isBeyond] using h
    have hlt := Nat.lt_of_lt_of_le hn overflowBound_le
    simpa [IsWritable, toDatum, Datum.isWritable, Scalar.isWritable, Numeral.isTooLong] using hlt
  | flag b => rfl
  | fraction x => rfl
  | word s => rfl

end Width

namespace Checks

open Outcome

variable {ctx : Context} {node : String} {i : Interface} {w : Width} {v : Violation}

theorem widthViolation?_of_eq_none (h : i.dataWidth = none) :
    widthViolation? ctx node i = .ok (some (missingWidth ctx node i)) := by
  rw [widthViolation?, h]

/-- A valid width is reported if it is not canonical, an invalid one always. -/
theorem widthViolation?_of_eq_some (h : i.dataWidth = some w) :
    widthViolation? ctx node i = isValidWidth w >>= fun valid =>
      if valid then
        if isCanonical ctx w then .ok none else (unusualWidth ctx node i w).map some
      else (invalidWidth ctx node i w).map some := by
  simp only [widthViolation?, h]
  refine congrArg (isValidWidth w >>= ·) (funext fun valid => ?_)
  split
  · split
    · rfl
    · cases unusualWidth ctx node i w <;> rfl
  · cases invalidWidth ctx node i w <;> rfl

theorem isValidWidth_eq_ok_iff {valid : Bool} :
    isValidWidth w = .ok valid ↔ ¬ w.IsBeyond ∧ (valid ↔ w.IsPositive) := by
  cases w with
  | number n =>
    simp only [isValidWidth, Width.IsBeyond, Width.IsPositive]
    split <;> cases valid <;> simp_all
  | fraction x =>
    simp only [isValidWidth, Width.IsBeyond, Width.IsPositive]
    cases x.extended? <;> cases valid <;> simp
  | flag b => cases valid <;> simp [isValidWidth, Width.IsBeyond, Width.IsPositive]
  | word s => cases valid <;> simp [isValidWidth, Width.IsBeyond, Width.IsPositive]

/-! ## When a width can be judged -/

theorem exists_writtenWidth_iff : (∃ text, writtenWidth w = .ok text) ↔ w.IsWritable := by
  unfold writtenWidth Width.display? Datum.display? Width.IsWritable
  split <;> simp_all

theorem exists_writtenWidths_iff {widths : List Int} :
    (∃ text, writtenWidths widths = .ok text) ↔ ∀ n ∈ widths, ¬ Numeral.isTooLong n := by
  simp only [writtenWidths, exists_map_eq_ok_iff, exists_mapM_eq_ok_iff, exists_writtenWidth_iff]
  simp [Width.IsWritable, Width.toDatum, Datum.isWritable, Scalar.isWritable]

theorem exists_invalidWidth_iff : (∃ v, invalidWidth ctx node i w = .ok v) ↔ w.IsWritable := by
  rw [← exists_writtenWidth_iff]
  exact exists_map_eq_ok_iff

theorem exists_unusualWidth_iff : (∃ v, unusualWidth ctx node i w = .ok v) ↔
    w.IsWritable ∧ ∀ n ∈ ctx.settings.canonicalWidths, ¬ Numeral.isTooLong n := by
  rw [← exists_writtenWidth_iff, ← exists_writtenWidths_iff]
  simp [unusualWidth, exists_bind_eq_ok_iff, pure, Except.pure]

/-- A width that does not lie beyond the floats and, if it is unusual, can be reported with
the usual ones. -/
def CanJudge (ctx : Context) (w : Width) : Prop :=
  ¬ w.IsBeyond ∧ (w.IsPositive → isCanonical ctx w = false →
    ∀ n ∈ ctx.settings.canonicalWidths, ¬ Numeral.isTooLong n)

theorem exists_widthViolation?_iff : (∃ o, widthViolation? ctx node i = .ok o) ↔
    ∀ w, i.dataWidth = some w → CanJudge ctx w := by
  cases hw : i.dataWidth with
  | none => simp [widthViolation?_of_eq_none hw]
  | some w =>
    rw [widthViolation?_of_eq_some hw, exists_bind_eq_ok_iff]
    simp only [Option.some.injEq, forall_eq']
    constructor
    · rintro ⟨valid, hvalid, ho⟩
      obtain ⟨hfinite, hpos⟩ := isValidWidth_eq_ok_iff.mp hvalid
      refine ⟨hfinite, fun hp hc => ?_⟩
      rw [hpos.mpr hp, hc, if_pos rfl, if_neg Bool.false_ne_true, exists_map_eq_ok_iff] at ho
      exact (exists_unusualWidth_iff.mp ho).2
    · rintro ⟨hfinite, husual⟩
      have hwritable := Width.isWritable_of_not_isBeyond hfinite
      by_cases hp : w.IsPositive
      · refine ⟨true, isValidWidth_eq_ok_iff.mpr ⟨hfinite, by simp [hp]⟩, ?_⟩
        cases hc : isCanonical ctx w with
        | true => exact ⟨none, rfl⟩
        | false =>
          exact exists_map_eq_ok_iff.mpr (exists_unusualWidth_iff.mpr ⟨hwritable, husual hp hc⟩)
      · refine ⟨false, isValidWidth_eq_ok_iff.mpr ⟨hfinite, by simp [hp]⟩, ?_⟩
        exact exists_map_eq_ok_iff.mpr (exists_invalidWidth_iff.mpr hwritable)

end Checks

end DesignRules
