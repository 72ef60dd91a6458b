import DesignRules.Proofs.Analysis.Consistency
import DesignRules.Proofs.Grouping
import DesignRules.Proofs.Json
import DesignRules.Proofs.Listing
import DesignRules.Proofs.Schema.Acceptance
import DesignRules.Report

/-! # Reports on violations

A report can be made exactly if what it shows of the details can be shown. It has one section for
each category that occurs, in the order of the categories, and every violation has one entry, in the
section of its category. In what order the categories come among the violations does not matter.
-/

namespace DesignRules.Report

open Outcome

variable {details endpoint : Fields} {label before after report : String} {value : Option Datum}
  {vs ws : List Violation} {index : ℕ} {c : Category}

/-! ## Details -/

/-- Masters are listed with a path each, if there are any. -/
def HasMasterPaths (details : Fields) : Prop :=
  ∀ masters ∈ details.get? "masters", masters.isTrue →
    masters.ListOf fun master => master.ObjectOf fun given =>
      ∃ path, given.get? "fullPath" = some (.text path)

/-- The keys of an endpoint that are shown. -/
def endpointKeys : List String := ["node", "interface", "direction", "busType", "dataWidth"]

/-- What is shown of an endpoint has a text. -/
def IsShown (endpoint : Fields) : Prop :=
  ∀ key ∈ endpointKeys, ∀ value ∈ endpoint.get? key, value.isWritable

/-- Details that can be reported. -/
@[mk_iff]
structure Reportable (details : Fields) : Prop where
  source : ∀ endpoint, details.get? "source" = some (.object endpoint) → IsShown endpoint
  target : ∀ endpoint, details.get? "target" = some (.object endpoint) → IsShown endpoint
  masters : HasMasterPaths details

/-- The details of the violation, if it has any, can be reported. -/
def IsReportable (v : Violation) : Prop := Reportable (v.details.getD [])

theorem hasMasterPaths_of_get?_eq_none (h : details.get? "masters" = none) :
    HasMasterPaths details := by
  simp [HasMasterPaths, h]

theorem reportable_of_isWritable (hmasters : HasMasterPaths details)
    (hwritable : (Datum.object details).isWritable) : Reportable details := by
  have hendpoint : ∀ key endpoint, details.get? key = some (.object endpoint) →
      IsShown endpoint := by
    intro key endpoint h shown _ value hvalue
    have hobject : (Datum.object endpoint).isWritable :=
      (Datum.fieldsAreWritable_iff.mp hwritable _ (Fields.mem_of_get? h)).2
    exact (Datum.fieldsAreWritable_iff.mp hobject _ (Fields.mem_of_get? hvalue)).2
  exact ⟨hendpoint "source", hendpoint "target", hmasters⟩

theorem isWritable_zero : (Scalar.int 0).isWritable := by
  simp [Scalar.isWritable, Numeral.isTooLong]

theorem isWritable_of_isTrue_eq_false {value : Datum} (h : value.isTrue = false) :
    value.isWritable := by
  cases value with
  | scalar s =>
    cases s with
    | int n =>
      obtain rfl : n = 0 := by simpa [Datum.isTrue, Scalar.isTrue] using h
      exact isWritable_zero
    | _ => rfl
  | list items => simp_all [Datum.isTrue, Datum.isWritable, Datum.areWritable]
  | object given => simp_all [Datum.isTrue, Datum.isWritable, Datum.fieldsAreWritable]

theorem exists_shown_iff {value : Datum} : (∃ s, shown value = .ok s) ↔ value.isWritable := by
  unfold shown Datum.display?
  split <;> simp_all

theorem exists_part_iff :
    (∃ s, part before value after = .ok s) ↔ ∀ v ∈ value, v.isWritable := by
  cases value with
  | none => simp [part]
  | some v =>
    cases hv : v.isTrue with
    | true => simp [part, Option.filter_some_pos hv, exists_map_eq_ok_iff, exists_shown_iff]
    | false => simp [part, Option.filter_some_neg hv, isWritable_of_isTrue_eq_false hv]

theorem exists_shown_getD_iff {s : String} :
    (∃ t, shown ((value.filter Datum.isTrue).getD (.text s)) = .ok t) ↔
      ∀ v ∈ value, v.isWritable := by
  have htext : (Datum.text s).isWritable := rfl
  rw [exists_shown_iff]
  cases value with
  | none => simpa using htext
  | some v =>
    cases hv : v.isTrue with
    | true => simp [Option.filter_some_pos hv]
    | false => simpa [Option.filter_some_neg hv, isWritable_of_isTrue_eq_false hv] using htext

theorem exists_endpointLine_iff :
    (∃ line, endpointLine label endpoint = .ok line) ↔ IsShown endpoint := by
  simp only [endpointLine, exists_bind_eq_ok_iff, pure, Except.pure, Except.ok.injEq, exists_eq',
    and_true, exists_and_right, exists_part_iff, exists_shown_getD_iff]
  simp only [IsShown, endpointKeys, List.forall_mem_cons, List.not_mem_nil, false_imp_iff,
    implies_true, and_true]

theorem exists_endpointLines_iff : (∃ lines, endpointLines label value = .ok lines) ↔
    ∀ endpoint, value = some (.object endpoint) → IsShown endpoint := by
  unfold endpointLines
  split
  case h_1 endpoint => simp [exists_map_eq_ok_iff, exists_endpointLine_iff]
  case h_2 hother => exact iff_of_true ⟨[], rfl⟩ fun endpoint he => (hother endpoint he).elim

theorem exists_pathText_iff {path : Datum} :
    (∃ s, pathText path = .ok s) ↔ ∃ s, path = .text s := by
  unfold pathText
  split
  case h_1 s => simp
  case h_2 hother => simpa using hother

theorem exists_masterPath_iff {master : Datum} :
    (∃ path, masterPath master = .ok path ∧ ∃ s, pathText path = .ok s) ↔
      master.ObjectOf fun given => ∃ path, given.get? "fullPath" = some (.text path) := by
  cases master with
  | scalar s => simp [masterPath, Datum.ObjectOf]
  | list items => simp [masterPath, Datum.ObjectOf]
  | object given =>
    simp only [masterPath, Datum.ObjectOf]
    split
    case h_1 path hpath =>
      simp only [Except.ok.injEq, exists_eq_left', exists_pathText_iff, hpath, Option.some_inj]
    case h_2 hnone => simp [hnone]

theorem exists_mastersLines_iff : (∃ lines, mastersLines value = .ok lines) ↔
    ∀ masters ∈ value, masters.isTrue → masters.ListOf fun master => master.ObjectOf fun given =>
      ∃ path, given.get? "fullPath" = some (.text path) := by
  unfold mastersLines
  split
  case h_1 hnone => simp_all [Option.filter_eq_none_iff]
  case h_2 items hitems =>
    obtain ⟨rfl, htrue⟩ := Option.filter_eq_some_iff.mp hitems
    simp only [exists_bind_eq_ok_iff, pure, Except.pure, Except.ok.injEq, exists_eq', and_true,
      Option.mem_some_iff, forall_eq', htrue, forall_const, Datum.ListOf]
    rw [exists_mapM_mapM_eq_ok_iff]
    simp only [exists_masterPath_iff]
  case h_3 masters hmasters hother =>
    obtain ⟨rfl, htrue⟩ := Option.filter_eq_some_iff.mp hother
    cases masters <;> simp_all [Datum.ListOf]

/-- The details of a violation can be shown exactly if they are reportable. -/
theorem exists_detailLines_iff :
    (∃ lines, detailLines details = .ok lines) ↔ Reportable details := by
  simp only [detailLines, exists_bind_eq_ok_iff, pure, Except.pure, Except.ok.injEq, exists_eq',
    and_true, exists_and_right, exists_endpointLines_iff, exists_mastersLines_iff, reportable_iff,
    HasMasterPaths]

/-! ## Entries -/

/-- The lines on a violation at a place. Details that cannot be shown have none. -/
def entryLines (index : ℕ) (v : Violation) : List String :=
  headLines index v ++ (detailLines (v.details.getD [])).toOption.getD []

theorem entry_eq_ok_iff {v : Violation} :
    entry index v = .ok (entryLines index v) ↔ IsReportable v := by
  rw [IsReportable, ← exists_detailLines_iff, entry, entryLines, map_eq_ok_iff]
  constructor
  · rintro ⟨lines, h, -⟩
    exact ⟨lines, h⟩
  · rintro ⟨lines, h⟩
    exact ⟨lines, h, by rw [h]; rfl⟩

/-- A line, unless there is nothing that it could show. -/
inductive IsLineUnless (missing : Prop) (line : String) : List String → Prop where
  | absent (h : missing) : IsLineUnless missing line []
  | shown (h : ¬ missing) : IsLineUnless missing line [line]

/-- The lines on a violation that has a number: the rule and its severity, the problem, the place
and the remedy where they are known, and the details. -/
inductive IsEntry (index : ℕ) (v : Violation) : List String → Prop where
  | mk {place remedy details : List String}
    (hplace : IsLineUnless (v.location = "" ∨ v.location = "N/A") ("   - Location: " ++ v.location)
      place)
    (hremedy : IsLineUnless (v.suggestion = "") ("   - How to fix: " ++ v.suggestion) remedy)
    (hdetails : detailLines (v.details.getD []) = .ok details) :
    IsEntry index v
      ((Numeral.ofNat index ++ ". **" ++ v.ruleName ++ "** [" ++ v.ruleId ++ "] - " ++
          v.severity.name) ::
        ("   - Problem: " ++ v.description) :: (place ++ remedy ++ details))

theorem isLineUnless_iff {missing : Prop} [Decidable missing] {line : String}
    {lines : List String} :
    IsLineUnless missing line lines ↔ lines = if missing then [] else [line] := by
  constructor
  · rintro (h | h)
    · exact (if_pos h).symm
    · exact (if_neg h).symm
  · rintro rfl
    split
    case isTrue h => exact .absent h
    case isFalse h => exact .shown h

theorem entry_eq_ok_iff_isEntry {v : Violation} {lines : List String} :
    entry index v = .ok lines ↔ IsEntry index v lines := by
  rw [entry, map_eq_ok_iff]
  constructor
  · rintro ⟨details, hdetails, rfl⟩
    have hentry : IsEntry index v _ :=
      .mk (isLineUnless_iff.mpr rfl) (isLineUnless_iff.mpr rfl) hdetails
    simpa only [headLines, List.cons_append, List.nil_append] using hentry
  · rintro ⟨hplace, hremedy, hdetails⟩
    obtain rfl := isLineUnless_iff.mp hplace
    obtain rfl := isLineUnless_iff.mp hremedy
    exact ⟨_, hdetails, by simp only [headLines, List.cons_append, List.nil_append]⟩

theorem exists_entriesFrom_iff : (∃ lines, entriesFrom index vs = .ok lines) ↔
    ∀ v ∈ vs, IsReportable v := by
  induction vs generalizing index with
  | nil => simp [entriesFrom]
  | cons v vs ih =>
    simp only [entriesFrom, entry, exists_bind_eq_ok_iff, exists_map_eq_ok_iff, pure, Except.pure,
      Except.ok.injEq, exists_eq', and_true, exists_and_right, exists_detailLines_iff, ih,
      List.forall_mem_cons, IsReportable]

/-- The entries are numbered one after the other. -/
theorem entriesFrom_eq (h : ∀ v ∈ vs, IsReportable v) :
    entriesFrom index vs = .ok ((vs.zipIdx index).flatMap fun p => entryLines p.2 p.1) := by
  induction vs generalizing index with
  | nil => rfl
  | cons v vs ih =>
    obtain ⟨hv, hvs⟩ := List.forall_mem_cons.mp h
    rw [entriesFrom, entry_eq_ok_iff.mpr hv, ih hvs]
    rfl

/-! ## Sections -/

/-- A category with its violations. -/
structure Section where
  category : Category
  violations : List Violation

/-- The title with the number of the violations, and their entries numbered from one. -/
def Section.lines (s : Section) : List String :=
  sectionTitle s.category s.violations ::
    ((s.violations.zipIdx 1).flatMap fun p => entryLines p.2 p.1) ++ [""]

/-- The categories that occur, in their order, with their violations. -/
def sections (vs : List Violation) : List Section :=
  (Category.all.map fun c => Section.mk c (ofCategory c vs)).filter (!·.violations.isEmpty)

theorem mem_ofCategory_iff {v : Violation} : v ∈ ofCategory c vs ↔ v ∈ vs ∧ v.category = c := by
  simp [ofCategory]

theorem mem_all (c : Category) : c ∈ Category.all := by
  cases c <;> decide

theorem mem_sections_iff {s : Section} : s ∈ sections vs ↔
    s.violations = ofCategory s.category vs ∧ ∃ v ∈ vs, v.category = s.category := by
  have hoccurs (c : Category) : ofCategory c vs ≠ [] ↔ ∃ v ∈ vs, v.category = c := by
    simp [ofCategory]
  cases s with
  | mk c us =>
    simp only [sections, List.mem_filter, List.mem_map, Section.mk.injEq, mem_all, true_and,
      Bool.not_eq_true', List.isEmpty_eq_false_iff]
    constructor
    · rintro ⟨⟨_, rfl, rfl⟩, hne⟩
      exact ⟨rfl, (hoccurs _).mp hne⟩
    · rintro ⟨rfl, hv⟩
      exact ⟨⟨c, rfl, rfl⟩, (hoccurs c).mpr hv⟩

/-- The sections come in the order of the categories, each once. -/
theorem pairwise_sections :
    (sections vs).Pairwise fun s t => s.category.place < t.category.place := by
  have hall : Category.all.Pairwise fun c d => c.place < d.place := by decide
  apply List.Pairwise.filter
  exact List.pairwise_map.mpr hall

theorem flatMap_sections {β : Type} (f : Section → List β) : (sections vs).flatMap f =
    Category.all.flatMap fun c =>
      if !(ofCategory c vs).isEmpty then f ⟨c, ofCategory c vs⟩ else [] := by
  rw [sections, flatMap_filter, List.flatMap_map]

/-- Every violation is in one section, once. -/
theorem flatMap_violations_perm : ((sections vs).flatMap (·.violations)).Perm vs := by
  have hnodup : Category.all.Nodup := by decide
  have hgroups : (sections vs).flatMap (·.violations) =
      Category.all.flatMap fun c => ofCategory c vs := by
    rw [flatMap_sections]
    refine congrArg (Category.all.flatMap ·) (funext fun c => ?_)
    cases ofCategory c vs <;> rfl
  rw [hgroups]
  exact flatMap_filter_perm hnodup fun v _ => mem_all v.category

theorem sum_length_sections : ((sections vs).map (·.violations.length)).sum = vs.length := by
  rw [← flatMap_violations_perm.length_eq, List.length_flatMap]

theorem exists_sectionLines_iff : (∃ lines, sectionLines vs c = .ok lines) ↔
    ∀ v ∈ ofCategory c vs, IsReportable v := by
  unfold sectionLines
  split
  case h_1 hnil => simp [hnil]
  case h_2 => rw [exists_map_eq_ok_iff, exists_entriesFrom_iff]

theorem sectionLines_eq (h : ∀ v ∈ ofCategory c vs, IsReportable v) :
    sectionLines vs c = .ok
      (if !(ofCategory c vs).isEmpty then (Section.mk c (ofCategory c vs)).lines else []) := by
  unfold sectionLines
  split
  case h_1 hnil => simp [hnil]
  case h_2 hne =>
    rw [entriesFrom_eq h, if_pos (by simpa using hne)]
    rfl

/-! ## The report -/

theorem format_eq : format vs =
    if vs.isEmpty then .ok "No violations found."
    else (gather (sectionLines vs) Category.all).map fun lines =>
      joinLines (title vs :: "" :: lines) := by
  rw [format, gather]
  split
  · rfl
  · cases Category.all.mapM (sectionLines vs) <;> rfl

/-- There is a report exactly if the details of all violations can be reported. -/
theorem exists_format_iff : (∃ report, format vs = .ok report) ↔
    ∀ v ∈ vs, IsReportable v := by
  rw [format_eq]
  split
  case isTrue h =>
    obtain rfl := List.isEmpty_iff.mp h
    simp
  case isFalse =>
    simp only [gather, exists_map_eq_ok_iff, exists_mapM_eq_ok_iff, mem_all, forall_const,
      exists_sectionLines_iff, mem_ofCategory_iff]
    exact ⟨fun h v hv => h v.category v ⟨hv, rfl⟩, fun h _ v hv => h v hv.1⟩

theorem format_of_ne_nil (hne : vs ≠ []) (h : ∀ v ∈ vs, IsReportable v) :
    format vs = .ok (joinLines (title vs :: "" :: (sections vs).flatMap Section.lines)) := by
  have hlines : ∀ c ∈ Category.all, sectionLines vs c = .ok _ := fun c _ =>
    sectionLines_eq fun v hv => h v (mem_ofCategory_iff.mp hv).1
  rw [format_eq, if_neg (by simpa using hne), gather_congr hlines, gather_ok, flatMap_sections]
  rfl

/-- Only the order within each category matters. -/
theorem format_congr (h : ∀ c, ofCategory c vs = ofCategory c ws) : format vs = format ws := by
  have hsections : sections vs = sections ws := by simp only [sections, h]
  have hlength : vs.length = ws.length := by
    rw [← sum_length_sections, hsections, sum_length_sections]
  have hempty : vs.isEmpty = ws.isEmpty := by
    rw [Bool.eq_iff_iff, List.isEmpty_iff_length_eq_zero, hlength, List.isEmpty_iff_length_eq_zero]
  have hlines : sectionLines vs = sectionLines ws := funext fun c => by
    rw [sectionLines, h c, sectionLines]
  have htitle : title vs = title ws := by rw [title, hlength, title]
  rw [format_eq, format_eq, hempty, hlines, htitle]

/-- The violations sorted by their categories, in each category as they were. -/
def byCategory (vs : List Violation) : List Violation :=
  vs.mergeSort fun v w => decide (v.category.place ≤ w.category.place)

theorem format_byCategory : format (byCategory vs) = format vs :=
  format_congr (filter_mergeSort Category.place)

/-- The report on the violations has an entry for each of them and nothing else. -/
structure IsExact (vs : List Violation) : Prop where
  sorted : format (byCategory vs) = format vs
  congr : ∀ ws, (∀ c, ofCategory c vs = ofCategory c ws) → format vs = format ws
  empty : vs = [] → format vs = .ok "No violations found."
  text : vs ≠ [] → format vs = .ok (String.ofList (Text.trimEnd ("\n".intercalate
    (("Found " ++ Numeral.ofNat vs.length ++ " DRC violation(s):") :: "" ::
      (sections vs).flatMap Section.lines)).toList) ++ "\n")
  lines : ∀ s ∈ sections vs, s.lines =
    ("## " ++ s.category.name ++ " Issues (" ++ Numeral.ofNat s.violations.length ++ ")") ::
      ((s.violations.zipIdx 1).flatMap fun p => entryLines p.2 p.1) ++ [""]
  entries : ∀ v ∈ vs, ∀ index, entry index v = .ok (entryLines index v)
  describes : ∀ v ∈ vs, ∀ index, IsEntry index v (entryLines index v)
  categories : ∀ c, (∃ s ∈ sections vs, s.category = c) ↔ ∃ v ∈ vs, v.category = c
  violations : ∀ s ∈ sections vs, s.violations = vs.filter (·.category == s.category)
  ordered : (sections vs).Pairwise fun s t => s.category.place < t.category.place
  perm : ((sections vs).flatMap (·.violations)).Perm vs
  sum : ((sections vs).map (·.violations.length)).sum = vs.length

theorem isExact_of_reportable (h : ∀ v ∈ vs, IsReportable v) : IsExact vs where
  sorted := format_byCategory
  congr _ := format_congr
  empty := by
    rintro rfl
    rfl
  text hne := format_of_ne_nil hne h
  lines _ _ := rfl
  entries v hv _ := entry_eq_ok_iff.mpr (h v hv)
  describes v hv _ := entry_eq_ok_iff_isEntry.mp (entry_eq_ok_iff.mpr (h v hv))
  categories c := by
    constructor
    · rintro ⟨s, hs, rfl⟩
      exact (mem_sections_iff.mp hs).2
    · intro hv
      exact ⟨⟨c, ofCategory c vs⟩, mem_sections_iff.mpr ⟨rfl, hv⟩, rfl⟩
  violations s hs := (mem_sections_iff.mp hs).1
  ordered := pairwise_sections
  perm := flatMap_violations_perm
  sum := sum_length_sections

/-- Violations whose masters have paths and whose details hold no integer too long to be written
have a report, and it is exact. -/
theorem isExact_format (h : ∀ v ∈ vs, ∀ details ∈ v.details,
    HasMasterPaths details ∧ (Datum.object details).isWritable) :
    (∃ report, format vs = .ok report) ∧ IsExact vs := by
  have hreportable : ∀ v ∈ vs, IsReportable v := by
    intro v hv
    unfold IsReportable
    cases hdetails : v.details with
    | none => exact reportable_of_isWritable (hasMasterPaths_of_get?_eq_none rfl) rfl
    | some details =>
      obtain ⟨hmasters, hwritable⟩ := h v hv details hdetails
      exact reportable_of_isWritable hmasters hwritable
  exact ⟨exists_format_iff.mpr hreportable, isExact_of_reportable hreportable⟩

/-- A name given twice, a slave with two masters and another name given twice. -/
def outOfOrder : List Violation :=
  [Rule.uniqueLabels.violation ⟨"", "The name a is given twice", "", none, none, none, none⟩,
   Rule.multipleMasters.violation ⟨"mem.s0", "Two masters", "", none, none, none, some
     [("masters", .list
        [.object [("fullPath", .text "c0.m")], .object [("fullPath", .text "c1.m")]]),
      ("masterCount", .int 2)]⟩,
   Rule.uniqueLabels.violation ⟨"N/A", "The name b is given twice", "Rename one", none, none, none,
     some [("source", .object [("node", .text "b")]),
      ("target", .object [("interface", .text "p"), ("dataWidth", .int 32)])]⟩]

def outOfOrderLines : List String :=
  ["Found 3 DRC violation(s):",
   "",
   "## Connectivity Issues (1)",
   "1. **Multiple Masters to One Slave Interface** [DRC-CONN-005] - critical",
   "   - Problem: Two masters",
   "   - Location: mem.s0",
   "   - Competing masters: c0.m, c1.m",
   "",
   "## Naming Convention Issues (2)",
   "1. **Unique Component Names** [DRC-NAME-001] - warning",
   "   - Problem: The name a is given twice",
   "2. **Unique Component Names** [DRC-NAME-001] - warning",
   "   - Problem: The name b is given twice",
   "   - How to fix: Rename one",
   "   - Source: b",
   "   - Target: N/A.p 32-bit",
   ""]

theorem isExact_outOfOrder : (∀ v ∈ outOfOrder, ∀ details ∈ v.details,
    HasMasterPaths details ∧ (Datum.object details).isWritable) ∧
    format outOfOrder = .ok (joinLines outOfOrderLines) ∧ IsExact outOfOrder := by
  have h : ∀ v ∈ outOfOrder, ∀ details ∈ v.details,
      HasMasterPaths details ∧ (Datum.object details).isWritable := by
    intro v hv details hdetails
    simp only [outOfOrder, List.mem_cons, List.not_mem_nil, or_false] at hv
    rcases hv with rfl | rfl | rfl
    · cases hdetails
    · obtain rfl := Option.some.inj hdetails
      refine ⟨?_, by decide +kernel⟩
      rintro masters ⟨⟩ _ master hmaster
      simp only [List.mem_cons, List.not_mem_nil, or_false] at hmaster
      rcases hmaster with rfl | rfl <;> exact ⟨_, rfl⟩
    · obtain rfl := Option.some.inj hdetails
      exact ⟨hasMasterPaths_of_get?_eq_none rfl, by decide +kernel⟩
  have hlines : title outOfOrder :: "" :: (sections outOfOrder).flatMap Section.lines =
      outOfOrderLines := by
    decide +kernel
  obtain ⟨-, hexact⟩ := isExact_format h
  have hreport := hexact.text (by decide +kernel)
  rw [← title, hlines] at hreport
  exact ⟨h, hreport, hexact⟩

end DesignRules.Report
