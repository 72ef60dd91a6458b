import DesignRules.Proofs.Analysis.Completion
import DesignRules.Proofs.Server.Calls

/-! # Faults of configuration files

A call of the service should succeed or tell the file that is at fault. Whatever the engines
for YAML and for patterns are, it does so exactly if every value in the files that it reads can
be made, every library file that it reads is one in which components can be looked for, and what
was read lets all checks end.
-/

namespace DesignRules

open Outcome

namespace Outcome

variable {α β ε : Type} {p : ε → Prop}

/-- All failures are of one kind. -/
def FailsOnly (p : ε → Prop) (x : Except ε α) : Prop := ∀ e, x = .error e → p e

theorem failsOnly_ok {a : α} : FailsOnly p (.ok a : Except ε α) := fun _ h => nomatch h

theorem failsOnly_error_iff {e : ε} : FailsOnly p (.error e : Except ε α) ↔ p e := by
  simp [FailsOnly]

theorem failsOnly_map_iff {x : Except ε α} {f : α → β} :
    FailsOnly p (x.map f) ↔ FailsOnly p x := by
  simp only [FailsOnly, map_eq_error_iff]

theorem failsOnly_bind_iff {x : Except ε α} {f : α → Except ε β} :
    FailsOnly p (x >>= f) ↔ FailsOnly p x ∧ ∀ a, x = .ok a → FailsOnly p (f a) := by
  cases x <;> simp [FailsOnly, bind, Except.bind]

/-- The first member that fails decides. -/
theorem failsOnly_mapM_iff {f : α → Except ε β} {l : List α} : FailsOnly p (l.mapM f) ↔
    ∀ before a after, l = before ++ a :: after → (∀ b ∈ before, ∃ c, f b = .ok c) →
      FailsOnly p (f a) := by
  induction l with
  | nil => simp [pure, Except.pure, failsOnly_ok]
  | cons a l ih =>
    -- either the first member fails, or it joins those before the one that does
    rw [List.mapM_cons, failsOnly_bind_iff]
    constructor
    · rintro ⟨hhead, hrest⟩ before a' after hl hbefore
      cases before with
      | nil =>
        obtain ⟨rfl, -⟩ := List.cons.inj hl
        exact hhead
      | cons b before =>
        obtain ⟨rfl, rfl⟩ := List.cons.inj hl
        obtain ⟨⟨c, hc⟩, hbefore⟩ := List.forall_mem_cons.mp hbefore
        obtain ⟨htail, -⟩ := failsOnly_bind_iff.mp (hrest c hc)
        exact ih.mp htail before a' after rfl hbefore
    · intro h
      refine ⟨h [] a l rfl (by simp), fun b hb => failsOnly_bind_iff.mpr ⟨?_, ?_⟩⟩
      · refine ih.mpr fun before a' after hl hbefore => h (a :: before) a' after ?_ ?_
        · rw [hl, List.cons_append]
        · exact List.forall_mem_cons.mpr ⟨⟨b, hb⟩, hbefore⟩
      · exact fun _ _ => failsOnly_ok

end Outcome

/-! ## Files that are blamed -/

namespace Server

def LoadFailure.IsOfFile (cause : LoadFailure) : Prop := ∃ path, cause = .badFile path

def Failure.IsOfFile (failure : Failure) : Prop := ∃ path, failure = .load (.badFile path)

theorem not_isOfFile_badLibrary : ¬ LoadFailure.IsOfFile .badLibrary := fun ⟨_, h⟩ => nomatch h

theorem Failure.isOfFile_load_iff {cause : LoadFailure} :
    (Failure.load cause).IsOfFile ↔ cause.IsOfFile := by
  simp [Failure.IsOfFile, LoadFailure.IsOfFile]

theorem Directory.failsOnly_fitting {α : Type} (path : Path) (c : Schema.Checked α) :
    FailsOnly LoadFailure.IsOfFile (fitting path c) := by
  cases c with
  | valid a => exact failsOnly_ok
  | invalid issues => exact failsOnly_error_iff.mpr ⟨_, rfl⟩

theorem Service.failsOnly_knownOr_iff {α : Type} {p : LoadFailure → Prop} {known : Option α}
    {found : Except LoadFailure α} :
    FailsOnly p (knownOr known found) ↔ (known = none → FailsOnly p found) := by
  cases known <;> simp [knownOr, failsOnly_ok]

/-! ## Runs -/

/-- Once all is loaded no file is blamed any more. -/
theorem Service.failsOnly_analyze_iff [Pattern.Engine] {s : Service} {q : Inquiry}
    {timestamp : String} {supplied library : List Component} {settings : Settings}
    {options : Options} {diagram : Diagram} (ho : q.options s.checkOptionalPorts = .ok options)
    (hd : Diagram.read q.diagram = .ok diagram) :
    FailsOnly Failure.IsOfFile
        (analyze timestamp s.checkOptionalPorts q supplied settings library) ↔
      ∃ run, Analysis.run timestamp ⟨⟨diagram, supplied ++ library⟩, options, settings, none⟩ =
        .ok run := by
  have hanalyze : analyze timestamp s.checkOptionalPorts q supplied settings library =
      (Analysis.run timestamp ⟨⟨diagram, supplied ++ library⟩, options, settings, none⟩).mapError
        .check := by
    rw [analyze, ho, hd]
    rfl
  rw [hanalyze]
  cases Analysis.run timestamp ⟨⟨diagram, supplied ++ library⟩, options, settings, none⟩ with
  | ok run => simp [Except.mapError, failsOnly_ok]
  | error cause => simp [Except.mapError, failsOnly_error_iff, Failure.IsOfFile]

/-- A run depends on the pattern for names only in the check for names. -/
theorem Service.exists_run_iff_pattern {ctx : Context} {timestamp : String} :
    (∃ run, Analysis.run timestamp ctx = .ok run) ↔
    (∃ isName, ctx.patterns.compile ctx.settings.namePattern = .ok isName) ∧
    ∀ check ∈ Analysis.checks, check ≠ Checks.interfaceNaming → ∃ vs, check ctx = .ok vs := by
  rw [Analysis.exists_run_iff_forall_checks, ← Checks.nameTest,
    ← Analysis.exists_interfaceNaming_iff]
  constructor
  · exact fun h => ⟨h _ (by simp [Analysis.checks_eq]), fun check hcheck _ => h check hcheck⟩
  · rintro ⟨hnaming, hothers⟩ check hcheck
    by_cases heq : check = Checks.interfaceNaming
    · exact heq ▸ hnaming
    · exact hothers check hcheck heq

end Server

/-! ## Documents -/

section Engines

variable [Yaml.Engine]

/-- Either the text is no YAML at all or each value in it can be made. -/
def Yaml.HasValues (text : String) : Prop :=
  ∀ fault, Yaml.Engine.load text = .error fault → fault = .malformed

/-- The value can be looked through: it is a collection or a text. -/
def Yaml.Document.HasMembers (document : Yaml.Document Yaml.Engine.Other) : Prop :=
  ∀ s, document.level = .scalar s → ∃ t, s = .text t

theorem Yaml.Document.exists_members?_iff (document : Yaml.Document Yaml.Engine.Other) :
    (∃ members, document.members? = some members) ↔ document.HasMembers := by
  unfold members? HasMembers
  cases document.level with
  | scalar s => cases s <;> simp
  | _ => simp

namespace Server

open Yaml

namespace Directory

/-- A document in which components can be looked for. An object may have any value for them that can
be looked through; what is no object must not speak of them. -/
def IsLibraryDocument (document : Document Engine.Other) : Prop :=
  match document.level with
  | .object _ => ∀ value, document.get? componentsKey = some value → value.HasMembers
  | .list items | .set items => items.any (·.isText componentsKey) = false
  | .scalar (.text s) => Text.contains s componentsKey = false
  | .scalar _ | .octets _ => document.isTrue = false

/-- Every value in the settings file can be made. -/
def HasSoundSettings (d : Directory) : Prop :=
  ∀ text, d.entry? settingsPath = some (.file text) → Yaml.HasValues text

/-- Every value in the file can be made, and components can be looked for in it. -/
def IsSoundLibraryFile (d : Directory) (path : Path) : Prop :=
  ∀ text, d.entry? path = some (.file text) →
    Yaml.HasValues text ∧ ∀ document, Engine.load text = .ok document → IsLibraryDocument document

/-- The library files are sound up to the first that cannot be loaded. -/
def HasSoundLibrary (d : Directory) : Prop :=
  ∀ before path after, d.libraryPaths = before ++ path :: after →
    (∀ earlier ∈ before, ∃ components, d.componentsOf earlier = .ok components) →
    d.IsSoundLibraryFile path

variable {d : Directory} {path : Path}

theorem failsOnly_document_iff : FailsOnly LoadFailure.IsOfFile (d.document path) ↔
    ∀ text, d.entry? path = some (.file text) → Yaml.HasValues text := by
  unfold document
  split
  case h_1 text htext =>
    rw [htext]
    cases hread : Engine.load text with
    | ok document => simp [Except.mapError, failsOnly_ok, Yaml.HasValues, hread]
    | error fault =>
      by_cases hfault : fault = .malformed <;>
        simp [Except.mapError, failsOnly_error_iff, Yaml.HasValues, hread, LoadFailure.IsOfFile,
          hfault]
  case h_2 hnone =>
    refine iff_of_true (failsOnly_error_iff.mpr ⟨_, rfl⟩) fun text htext => ?_
    exact absurd htext (hnone text)

theorem failsOnly_settings_iff :
    FailsOnly LoadFailure.IsOfFile d.settings ↔ d.HasSoundSettings := by
  unfold settings HasSoundSettings
  split
  case isTrue hnone => simp [hnone, failsOnly_ok]
  case isFalse =>
    rw [failsOnly_bind_iff, failsOnly_document_iff]
    exact and_iff_left fun _ _ => failsOnly_fitting _ _

/-- What has no components unless it speaks of them. -/
theorem exists_unless_iff {speaks : Bool} : (∃ o : Option (Document Engine.Other),
    (if speaks then .error .badLibrary else .ok none) = (.ok o : Except LoadFailure _) ∧
      ∀ value, o = some value → ∃ members, value.members? = some members) ↔ speaks = false := by
  cases speaks <;> simp

theorem isLibraryDocument_iff (document : Document Engine.Other) : IsLibraryDocument document ↔
    ∃ o, componentsIn? document = .ok o ∧
      ∀ value, o = some value → ∃ members, value.members? = some members := by
  unfold IsLibraryDocument componentsIn?
  cases document.level with
  | object entries =>
    simp only [Except.ok.injEq, exists_eq_left', Document.exists_members?_iff]
  | scalar s => cases s <;> exact exists_unless_iff.symm
  | list items | set items | octets values => exact exists_unless_iff.symm

theorem componentsIn?_eq_error {document : Document Engine.Other} {cause : LoadFailure}
    (h : componentsIn? document = .error cause) : cause = .badLibrary := by
  unfold componentsIn? at h
  split at h <;> grind

theorem document_eq_ok_iff {document : Document Engine.Other} : d.document path = .ok document ↔
    ∃ text, d.entry? path = some (.file text) ∧ Engine.load text = .ok document := by
  unfold Directory.document
  split
  case h_1 text htext =>
    rw [htext]
    cases hread : Engine.load text <;> simp [Except.mapError, hread]
  case h_2 hnone => exact iff_of_false (by simp) fun ⟨text, h, _⟩ => hnone text h

theorem failsOnly_componentsOf_iff :
    FailsOnly LoadFailure.IsOfFile (d.componentsOf path) ↔ d.IsSoundLibraryFile path := by
  unfold componentsOf
  rw [failsOnly_bind_iff, failsOnly_document_iff]
  refine (and_congr_right fun _ => forall₂_congr fun document _ =>
    (?_ : _ ↔ IsLibraryDocument document)).trans ?_
  · -- where components cannot be looked for no file is blamed
    rw [failsOnly_bind_iff, isLibraryDocument_iff]
    cases hin : componentsIn? document with
    | error cause =>
      cases componentsIn?_eq_error hin
      simp [failsOnly_error_iff, not_isOfFile_badLibrary]
    | ok o =>
      cases o with
      | none => simp [failsOnly_ok, pure, Except.pure]
      | some value =>
        cases hmembers : value.members? <;>
          simp [failsOnly_error_iff, failsOnly_ok, failsOnly_fitting, hmembers,
            not_isOfFile_badLibrary]
  · simp only [document_eq_ok_iff, IsSoundLibraryFile]
    grind

theorem failsOnly_library_iff : FailsOnly LoadFailure.IsOfFile d.library ↔ d.HasSoundLibrary := by
  rw [library, failsOnly_map_iff, failsOnly_mapM_iff]
  simp only [failsOnly_componentsOf_iff]
  rfl

end Directory

namespace Service

open Checks

variable {s : Service} {d : Directory} {q : Inquiry} {timestamp : String}
  {supplied library : List Component} {settings : Settings} {options : Options} {diagram : Diagram}

theorem failsOnly_currentSettings_iff : FailsOnly LoadFailure.IsOfFile (s.currentSettings d) ↔
    (s.settings = none → d.HasSoundSettings) := by
  rw [currentSettings, failsOnly_knownOr_iff, Directory.failsOnly_settings_iff]

theorem failsOnly_currentLibrary_iff : FailsOnly LoadFailure.IsOfFile (s.currentLibrary d) ↔
    (s.library = none → d.HasSoundLibrary) := by
  rw [currentLibrary, failsOnly_knownOr_iff, Directory.failsOnly_library_iff]

/-- Asking for the settings, and checking a diagram that can be read for a caller whose catalogue
and options can be read, succeed or blame a file exactly if what has still to be loaded is
sound and lets all checks end. -/
theorem reports_files_iff [Pattern.Engine] (s : Service) (d : Directory) (timestamp : String)
    (q : Inquiry) {supplied : List Component} {options : Options} {diagram : Diagram}
    (hq : q.components = .ok supplied) (ho : q.options s.checkOptionalPorts = .ok options)
    (hd : Diagram.read q.diagram = .ok diagram) :
    (FailsOnly LoadFailure.IsOfFile (s.getSettings d).2 ↔
      (s.settings = none → d.HasSoundSettings)) ∧
    (FailsOnly Failure.IsOfFile (s.check timestamp d q).2 ↔
      (s.settings = none → d.HasSoundSettings) ∧
      ∀ settings, s.currentSettings d = .ok settings →
        (s.library = none → d.HasSoundLibrary) ∧
        ∀ library, s.currentLibrary d = .ok library →
          (∃ isName, Pattern.Engine.compile settings.namePattern = .ok isName) ∧
          ∀ check ∈ Analysis.checks, check ≠ interfaceNaming → ∃ vs,
            check ⟨⟨diagram, supplied ++ library⟩, options, settings, none⟩ = .ok vs) := by
  refine ⟨by rw [snd_getSettings, failsOnly_currentSettings_iff], ?_⟩
  rw [← failsOnly_currentSettings_iff, ← failsOnly_currentLibrary_iff]
  cases hs : s.currentSettings d with
  | error cause =>
    rw [check_of_settings_error hq hs, failsOnly_error_iff, failsOnly_error_iff,
      Failure.isOfFile_load_iff]
    simp
  | ok settings =>
    cases hl : s.currentLibrary d with
    | error cause =>
      rw [check_of_library_error hq hs hl, failsOnly_error_iff, failsOnly_error_iff,
        Failure.isOfFile_load_iff]
      simp [failsOnly_ok]
    | ok library =>
      rw [check_of_loaded hq hs hl, failsOnly_analyze_iff ho hd, exists_run_iff_pattern]
      simp [failsOnly_ok]

end Service

end Server

end Engines

namespace Server.Service

theorem exists_read_plainInquiry : ∃ diagram, Diagram.read plainInquiry.diagram = .ok diagram := by
  have h : (Diagram.read plainInquiry.diagram).map (fun _ => ()) = .ok () := by decide +kernel
  obtain ⟨diagram, hdiagram, -⟩ := map_eq_ok_iff.mp h
  exact ⟨diagram, hdiagram⟩

def shallowSettings : String := "'settings':\n  'max_path_depth': '3'"

/-- Fit settings beside a library file that is no YAML. -/
def unclosedLibrary : Directory := .ofFiles
  [(["drc-settings.yaml"], shallowSettings), (["component-library", "a.yaml"], "'components': [")]

theorem reports_files_unclosedLibrary : plainInquiry.components = .ok [] ∧
    plainInquiry.options false = .ok ⟨false⟩ ∧
    (∃ diagram, Diagram.read plainInquiry.diagram = .ok diagram) ∧
    FailsOnly Failure.IsOfFile ((new false).check "" unclosedLibrary plainInquiry).2 := by
  obtain ⟨diagram, hd⟩ := exists_read_plainInquiry
  have hentry : unclosedLibrary.entry? Directory.settingsPath = some (.file shallowSettings) := by
    decide +kernel
  have hsettings : (Yaml.Engine.load shallowSettings).map (fun _ => ()) = .ok () := by
    decide +kernel
  obtain ⟨document, hread, -⟩ := map_eq_ok_iff.mp hsettings
  have hlibrary : unclosedLibrary.library.map (fun _ => ()) =
      .error (.badFile "component-library/a.yaml") := by
    decide +kernel
  have hlibrary := map_eq_error_iff.mp hlibrary
  refine ⟨rfl, rfl, ⟨diagram, hd⟩,
    (reports_files_iff (new false) unclosedLibrary "" plainInquiry rfl rfl hd).2.mpr
      ⟨fun _ text htext fault hfault => ?_, fun settings _ => ⟨fun _ => ?_, fun library hl => ?_⟩⟩⟩
  · obtain rfl : shallowSettings = text := by simpa [hentry] using htext
    exact nomatch hread.symm.trans hfault
  · exact Directory.failsOnly_library_iff.mp (hlibrary ▸ failsOnly_error_iff.mpr ⟨_, rfl⟩)
  · exact nomatch hlibrary.symm.trans hl

def nullComponents : Directory := .ofFiles [(["component-library", "a.yaml"], "'components':")]

def unclosedPattern : Directory := .ofFiles
  [(["drc-settings.yaml"], "'settings':\n  'interface_name_pattern': '['")]

def wordForNumber : Directory := .ofFiles [(["drc-settings.yaml"], "!!int 'x'")]

/-- Files for which calls fail without blame, though the caller is not at fault. -/
theorem not_reports_files : plainInquiry.components = .ok [] ∧
    (∃ diagram, Diagram.read plainInquiry.diagram = .ok diagram) ∧
    ((new false).check "" nullComponents plainInquiry).2 = .error (.load .badLibrary) ∧
    ((new false).check "" unclosedPattern plainInquiry).2 = .error (.check .badPattern) ∧
    ((new false).getSettings wordForNumber).2 = .error (.badScalar .badValue) := by
  have hcomponents : ((new false).check "" nullComponents plainInquiry).2.map (fun _ => ()) =
      .error (.load .badLibrary) := by
    decide +kernel
  have hpattern : ((new false).check "" unclosedPattern plainInquiry).2.map (fun _ => ()) =
      .error (.check .badPattern) := by
    decide +kernel
  have hnumber : ((new false).getSettings wordForNumber).2.map (fun _ => ()) =
      .error (.badScalar .badValue) := by
    decide +kernel
  exact ⟨rfl, exists_read_plainInquiry, map_eq_error_iff.mp hcomponents,
    map_eq_error_iff.mp hpattern, map_eq_error_iff.mp hnumber⟩

end Server.Service

end DesignRules
