import DesignRules.Analysis
import DesignRules.Proofs.Checks.DataWidths

/-! # What a check reports

Every check reports violations of a few rules only, and each violation carries the
severity of its rule. Only an input wired to an output is judged less severely than its
rule is.
-/

namespace DesignRules

/-- A violation as its check made it. -/
def Violation.unnumbered (v : Violation) : Violation := { v with id := "" }

/-- What the details hold at the end of a path of keys. -/
def Violation.detail? (v : Violation) (path : List String) : Option Datum :=
  v.details.bind fun given => path.foldlM Datum.get? (.object given)

namespace Rule

/-- A violation that a rule gives rise to, not numbered yet. -/
inductive Reports : Rule → Violation → Prop where
  | own (rule : Rule) (finding : Finding) : Reports rule (rule.violation finding)
  | reversed (finding : Finding) :
      Reports .signalDirection (signalDirection.violationAt .warning finding)

variable {rule other : Rule} {v : Violation}

theorem Reports.ruleId_eq (h : rule.Reports v) : v.ruleId = rule.code := by
  cases h <;> rfl

theorem Reports.category_eq (h : rule.Reports v) : v.category = rule.category := by
  cases h <;> rfl

theorem Reports.ruleName_eq (h : rule.Reports v) : v.ruleName = rule.name := by
  cases h <;> rfl

theorem Reports.unnumbered_eq (h : rule.Reports v) : v.unnumbered = v := by
  cases h <;> rfl

theorem Reports.severity_eq_or (h : rule.Reports v) :
    v.severity = rule.severity ∨ rule = .signalDirection ∧ v.severity = .warning := by
  cases h with
  | own finding => exact .inl rfl
  | reversed finding => exact .inr ⟨rfl, rfl⟩

theorem Reports.severity_eq (h : rule.Reports v) (hr : rule ≠ .signalDirection) :
    v.severity = rule.severity :=
  h.severity_eq_or.resolve_right fun hreversed => hr hreversed.1

theorem Reports.severity_ne_critical (h : rule.Reports v) (hr : rule.severity ≠ .critical) :
    v.severity ≠ .critical := by
  rcases h.severity_eq_or with hs | ⟨-, hs⟩
  · exact hs ▸ hr
  · simp [hs]

theorem ofCode?_code (rule : Rule) : ofCode? rule.code = some rule := by
  cases rule <;> rfl

theorem code_injective : Function.Injective code := by
  intro a b h
  have := congrArg ofCode? h
  rwa [ofCode?_code, ofCode?_code, Option.some_inj] at this

theorem Reports.ruleId_eq_iff (h : rule.Reports v) : v.ruleId = other.code ↔ rule = other := by
  rw [h.ruleId_eq, code_injective.eq_iff]

end Rule

/-- All violations that the check finds are so. -/
def Check.Finds (check : Check) (p : Violation → Prop) : Prop :=
  ∀ ctx vs, check ctx = .ok vs → ∀ v ∈ vs, p v

/-- All violations that the check finds are violations of these rules. -/
def Check.ReportsOnly (check : Check) (rules : List Rule) : Prop :=
  ∀ ctx vs, check ctx = .ok vs → ∀ v ∈ vs, ∃ rule ∈ rules, rule.Reports v

/-- Nothing that the check finds is critical. -/
def Check.Clean (check : Check) (ctx : Context) : Prop :=
  ∀ vs, check ctx = .ok vs → ∀ v ∈ vs, v.severity ≠ .critical

namespace Check

variable {rules : List Rule} {rule : Rule}

theorem ofPure_eq_ok_iff {check : Context → List Violation} {ctx : Context} {vs : List Violation} :
    ofPure check ctx = .ok vs ↔ check ctx = vs := by
  simp [ofPure]

theorem finds_ofPure {p : Violation → Prop} {check : Context → List Violation}
    (h : ∀ ctx, ∀ v ∈ check ctx, p v) : (ofPure check).Finds p := by
  intro ctx vs hvs
  obtain rfl := ofPure_eq_ok_iff.mp hvs
  exact h ctx

theorem finds_map {p : Violation → Prop} {α : Type} {items : Context → List α}
    {report : Context → α → Violation} (h : ∀ ctx a, p (report ctx a)) :
    (ofPure fun ctx => (items ctx).map (report ctx)).Finds p := by
  refine finds_ofPure fun ctx v hv => ?_
  obtain ⟨a, _, rfl⟩ := List.mem_map.mp hv
  exact h ctx a

theorem finds_filterMap {p : Violation → Prop} {α β : Type} {items : Context → List α}
    {fault? : α → Option β} {report : Context → α → β → Violation}
    (h : ∀ ctx a b, p (report ctx a b)) :
    (ofPure fun ctx => (items ctx).filterMap fun a => (fault? a).map (report ctx a)).Finds p := by
  refine finds_ofPure fun ctx v hv => ?_
  obtain ⟨a, _, ha⟩ := List.mem_filterMap.mp hv
  obtain ⟨b, _, rfl⟩ := Option.map_eq_some_iff.mp ha
  exact h ctx a b

theorem reportsOnly_ofPure {check : Context → List Violation}
    (h : ∀ ctx, ∀ v ∈ check ctx, ∃ rule ∈ rules, rule.Reports v) :
    (ofPure check).ReportsOnly rules :=
  finds_ofPure h

/-- A check that makes every violation with one rule. -/
theorem reportsOnly_singleton {check : Check}
    (h : ∀ ctx vs, check ctx = .ok vs → ∀ v ∈ vs, ∃ finding, rule.violation finding = v) :
    check.ReportsOnly [rule] := by
  intro ctx vs hvs v hv
  obtain ⟨finding, rfl⟩ := h ctx vs hvs v hv
  exact ⟨rule, List.mem_singleton_self rule, .own rule finding⟩

theorem reportsOnly_ofPure_singleton {check : Context → List Violation}
    (h : ∀ ctx, ∀ v ∈ check ctx, ∃ finding, rule.violation finding = v) :
    (ofPure check).ReportsOnly [rule] :=
  reportsOnly_singleton (finds_ofPure h)

theorem reportsOnly_map {α : Type} {items : Context → List α} {report : Context → α → Violation}
    (h : ∀ ctx a, ∃ finding, rule.violation finding = report ctx a) :
    (ofPure fun ctx => (items ctx).map (report ctx)).ReportsOnly [rule] :=
  reportsOnly_singleton (finds_map h)

theorem reportsOnly_filterMap {α β : Type} {items : Context → List α} {fault? : α → Option β}
    {report : Context → α → β → Violation}
    (h : ∀ ctx a b, ∃ finding, rule.violation finding = report ctx a b) :
    (ofPure fun ctx => (items ctx).filterMap fun a =>
      (fault? a).map (report ctx a)).ReportsOnly [rule] :=
  reportsOnly_singleton (finds_filterMap h)

theorem clean_of_reportsOnly {check : Check} {ctx : Context} (h : check.ReportsOnly rules)
    (hr : ∀ rule ∈ rules, rule.severity ≠ .critical) : check.Clean ctx := by
  intro vs hvs v hv
  obtain ⟨rule, hmem, hrep⟩ := h ctx vs hvs v hv
  exact hrep.severity_ne_critical (hr rule hmem)

theorem clean_iff_eq_nil {check : Check} {ctx : Context} {vs : List Violation}
    (h : check.ReportsOnly [rule]) (hvs : check ctx = .ok vs) (hs : rule.severity = .critical)
    (hr : rule ≠ .signalDirection) : check.Clean ctx ↔ vs = [] := by
  constructor
  · intro hclean
    refine List.eq_nil_iff_forall_not_mem.mpr fun v hv => hclean vs hvs v hv ?_
    obtain ⟨other, hmem, hrep⟩ := h ctx vs hvs v hv
    obtain rfl := List.mem_singleton.mp hmem
    exact (hrep.severity_eq hr).trans hs
  · rintro rfl us hus v hv
    rw [hvs] at hus
    obtain rfl := Except.ok.inj hus
    simp at hv

theorem clean_ofPure_iff_eq_nil {check : Context → List Violation} {ctx : Context}
    (h : (ofPure check).ReportsOnly [rule]) (hs : rule.severity = .critical)
    (hr : rule ≠ .signalDirection) : (ofPure check).Clean ctx ↔ check ctx = [] :=
  clean_iff_eq_nil h rfl hs hr

end Check

namespace Checks

open Check Outcome

theorem reportsOnly_portUniqueness : (ofPure portUniqueness).ReportsOnly [.portUniqueness] :=
  reportsOnly_map fun _ _ => ⟨_, rfl⟩

theorem reportsOnly_endpointExistence :
    (ofPure endpointExistence).ReportsOnly [.endpointExistence] := by
  refine reportsOnly_ofPure_singleton fun ctx v hv => ?_
  obtain ⟨e, _, he⟩ := List.mem_flatMap.mp hv
  rcases List.mem_append.mp he with h | h <;> split at h <;>
    simp only [List.not_mem_nil, List.mem_singleton] at h <;> exact ⟨_, h.symm⟩

theorem reports_of_directionFault {a b : Direction} {fault : DirectionFault}
    (h : directionFault? a b = some fault) (finding : Finding) :
    ∃ rule ∈ [Rule.roleMatching, .signalDirection],
      rule.Reports (fault.rule.violationAt fault.severity finding) := by
  have hrole : Rule.roleMatching ∈ [Rule.roleMatching, .signalDirection] := by simp
  have hsignal : Rule.signalDirection ∈ [Rule.roleMatching, .signalDirection] := by simp
  unfold directionFault? at h
  split at h <;> cases h
  case h_2 | h_3 => exact ⟨_, hrole, .own .roleMatching finding⟩
  case h_4 | h_5 => exact ⟨_, hsignal, .own .signalDirection finding⟩
  case h_6 => exact ⟨_, hsignal, .reversed finding⟩

theorem reportsOnly_roleMatching :
    (ofPure roleMatching).ReportsOnly [.roleMatching, .signalDirection] := by
  refine reportsOnly_ofPure fun ctx v hv => ?_
  obtain ⟨wire, _, hw⟩ := List.mem_filterMap.mp hv
  obtain ⟨fault, hf, rfl⟩ := Option.map_eq_some_iff.mp hw
  exact reports_of_directionFault hf _

theorem reportsOnly_busTypeMatching : (ofPure busTypeMatching).ReportsOnly [.busTypeMatching] :=
  reportsOnly_filterMap fun _ _ _ => ⟨_, rfl⟩

theorem reportsOnly_multipleMasters : (ofPure multipleMasters).ReportsOnly [.multipleMasters] :=
  reportsOnly_map fun _ _ => ⟨_, rfl⟩

theorem reportsOnly_unconnectedInterfaces :
    (ofPure unconnectedInterfaces).ReportsOnly [.unconnectedMaster, .unconnectedSlave] := by
  refine reportsOnly_ofPure fun ctx v hv => ?_
  obtain ⟨n, _, hn⟩ := List.mem_flatMap.mp hv
  obtain ⟨i, _, hi⟩ := List.mem_filterMap.mp hn
  split at hi
  case isTrue => cases hi
  case isFalse =>
    unfold unconnected? at hi
    split at hi <;> cases hi
    · exact ⟨_, List.mem_cons_self, .own .unconnectedMaster _⟩
    · exact ⟨_, by simp, .own .unconnectedSlave _⟩

theorem exists_violation_of_conflictingWidths {ctx : Context} {rule : Rule} {aspect : String}
    {width : Interface → Option Width}
    {conflict? : Option Width → Option Width → Option (Width × Width)}
    {description suggestion : String → String → String} {vs : List Violation}
    (h : conflictingWidths ctx rule aspect width conflict? description suggestion = .ok vs) :
    ∀ v ∈ vs, ∃ finding, rule.violation finding = v := by
  intro v hv
  obtain ⟨⟨e, source, target, a, b⟩, _, hw⟩ := (mem_of_mapM_eq_ok h).mp hv
  obtain ⟨sourceText, _, hw⟩ := bind_eq_ok_iff.mp hw
  obtain ⟨targetText, _, hw⟩ := bind_eq_ok_iff.mp hw
  exact ⟨_, Except.ok.inj hw⟩

theorem reportsOnly_dataWidthMatching : Check.ReportsOnly dataWidthMatching [.dataWidthMatching] :=
  reportsOnly_singleton fun _ _ => exists_violation_of_conflictingWidths

theorem reportsOnly_idWidthCompatibility :
    Check.ReportsOnly idWidthCompatibility [.idWidthCompatibility] :=
  reportsOnly_singleton fun _ _ => exists_violation_of_conflictingWidths

theorem reportsOnly_addrWidthConsistency :
    Check.ReportsOnly addrWidthConsistency [.addrWidthConsistency] :=
  reportsOnly_singleton fun _ _ => exists_violation_of_conflictingWidths

theorem reportsOnly_clockCompatibility :
    (ofPure clockCompatibility).ReportsOnly [.clockCompatibility] :=
  reportsOnly_filterMap fun _ _ _ => ⟨_, rfl⟩

theorem reportsOnly_addressOverlap : Check.ReportsOnly addressOverlap [.addressOverlap] := by
  refine reportsOnly_singleton fun ctx vs hvs v hv => ?_
  obtain ⟨ranges, _, rfl⟩ := map_eq_ok_iff.mp hvs
  obtain ⟨pair, _, rfl⟩ := List.mem_map.mp hv
  exact ⟨_, rfl⟩

theorem reportsOnly_addressAlignment : Check.ReportsOnly addressAlignment [.addressAlignment] := by
  refine reportsOnly_singleton fun ctx vs hvs v hv => ?_
  obtain ⟨ranges, _, rfl⟩ := map_eq_ok_iff.mp hvs
  obtain ⟨r, _, rfl⟩ := List.mem_map.mp hv
  exact ⟨_, rfl⟩

theorem reportsOnly_reservedAddress : Check.ReportsOnly reservedAddress [.reservedAddress] := by
  refine reportsOnly_singleton fun ctx vs hvs v hv => ?_
  obtain ⟨ranges, _, rfl⟩ := map_eq_ok_iff.mp hvs
  obtain ⟨r, _, hr⟩ := List.mem_flatMap.mp hv
  obtain ⟨reserved, _, rfl⟩ := List.mem_map.mp hr
  exact ⟨_, rfl⟩

theorem reportsOnly_circularDependency :
    (ofPure circularDependency).ReportsOnly [.circularDependency] :=
  reportsOnly_map fun _ _ => ⟨_, rfl⟩

theorem reportsOnly_isolatedComponent :
    (ofPure isolatedComponent).ReportsOnly [.isolatedComponent] :=
  reportsOnly_map fun _ _ => ⟨_, rfl⟩

theorem reportsOnly_interconnectFanout :
    (ofPure interconnectFanout).ReportsOnly [.interconnectFanout] :=
  reportsOnly_map fun _ _ => ⟨_, rfl⟩

theorem reportsOnly_clockDomainCrossing :
    (ofPure clockDomainCrossing).ReportsOnly [.clockDomainCrossing] :=
  reportsOnly_filterMap fun _ _ _ => ⟨_, rfl⟩

theorem reportsOnly_longPaths : (ofPure longPaths).ReportsOnly [.longPath] := by
  refine reportsOnly_ofPure_singleton fun ctx v hv => ?_
  obtain ⟨id, _, hid⟩ := List.mem_flatMap.mp hv
  obtain ⟨path, _, rfl⟩ := List.mem_map.mp hid
  exact ⟨_, rfl⟩

theorem reportsOnly_requiredLabel : (ofPure requiredLabel).ReportsOnly [.requiredLabel] :=
  reportsOnly_map fun _ _ => ⟨_, rfl⟩

theorem reports_of_invalidWidth {ctx : Context} {node : String} {i : Interface} {w : Width}
    {v : Violation} (h : invalidWidth ctx node i w = .ok v) : Rule.requiredDataWidth.Reports v := by
  obtain ⟨text, _, rfl⟩ := map_eq_ok_iff.mp h
  exact .own .requiredDataWidth _

theorem reports_of_unusualWidth {ctx : Context} {node : String} {i : Interface} {w : Width}
    {v : Violation} (h : unusualWidth ctx node i w = .ok v) : Rule.dataWidthRange.Reports v := by
  obtain ⟨text, _, h⟩ := bind_eq_ok_iff.mp h
  obtain ⟨standard, _, h⟩ := bind_eq_ok_iff.mp h
  obtain rfl := Except.ok.inj h
  exact .own .dataWidthRange _

/-- A violation of a data width says that it is missing, invalid or unusual. -/
theorem eq_or_of_widthViolation? {ctx : Context} {node : String} {i : Interface} {v : Violation}
    (h : widthViolation? ctx node i = .ok (some v)) : missingWidth ctx node i = v ∨
      ∃ w, invalidWidth ctx node i w = .ok v ∨ unusualWidth ctx node i w = .ok v := by
  cases hw : i.dataWidth with
  | none =>
    rw [widthViolation?_of_eq_none hw] at h
    exact .inl (Option.some_inj.mp (Except.ok.inj h))
  | some w =>
    rw [widthViolation?_of_eq_some hw] at h
    obtain ⟨valid, _, h⟩ := bind_eq_ok_iff.mp h
    split at h
    case isTrue =>
      split at h
      case isTrue => cases h
      case isFalse =>
        obtain ⟨u, hu, huv⟩ := map_eq_ok_iff.mp h
        obtain rfl := Option.some_inj.mp huv
        exact .inr ⟨w, .inr hu⟩
    case isFalse =>
      obtain ⟨u, hu, huv⟩ := map_eq_ok_iff.mp h
      obtain rfl := Option.some_inj.mp huv
      exact .inr ⟨w, .inl hu⟩

theorem reports_of_widthViolation? {ctx : Context} {node : String} {i : Interface} {v : Violation}
    (h : widthViolation? ctx node i = .ok (some v)) :
    ∃ rule ∈ [Rule.requiredDataWidth, .dataWidthRange], rule.Reports v := by
  rcases eq_or_of_widthViolation? h with rfl | ⟨w, h | h⟩
  · exact ⟨_, List.mem_cons_self, .own .requiredDataWidth _⟩
  · exact ⟨_, List.mem_cons_self, reports_of_invalidWidth h⟩
  · exact ⟨_, by simp, reports_of_unusualWidth h⟩

theorem exists_widthViolation?_of_mem_dataWidths {ctx : Context} {vs : List Violation}
    (hvs : dataWidths ctx = .ok vs) {v : Violation} (hv : v ∈ vs) :
    ∃ port ∈ ports ctx, widthViolation? ctx port.1 port.2 = .ok (some v) := by
  obtain ⟨found, hf, rfl⟩ := map_eq_ok_iff.mp hvs
  obtain ⟨o, ho, rfl⟩ := List.mem_filterMap.mp hv
  exact (mem_of_mapM_eq_ok hf).mp ho

theorem reportsOnly_dataWidths :
    Check.ReportsOnly dataWidths [.requiredDataWidth, .dataWidthRange] := by
  intro ctx vs hvs v hv
  obtain ⟨port, _, hport⟩ := exists_widthViolation?_of_mem_dataWidths hvs hv
  exact reports_of_widthViolation? hport

theorem reportsOnly_uniqueLabels : (ofPure uniqueLabels).ReportsOnly [.uniqueLabels] :=
  reportsOnly_map fun _ _ => ⟨_, rfl⟩

theorem reportsOnly_interfaceNaming : Check.ReportsOnly interfaceNaming [.interfaceNaming] := by
  refine reportsOnly_singleton fun ctx vs hvs v hv => ?_
  unfold interfaceNaming at hvs
  split at hvs
  case h_1 => cases hvs
  case h_2 =>
    obtain rfl := Except.ok.inj hvs
    obtain ⟨port, _, rfl⟩ := List.mem_map.mp hv
    exact ⟨_, rfl⟩

end Checks
end DesignRules
