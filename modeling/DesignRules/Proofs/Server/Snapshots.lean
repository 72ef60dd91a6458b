import DesignRules.Proofs.Server.Calls
import Mathlib.Data.List.Induction

/-! # Snapshots of the configuration

Calls of one service, with changes of its directory in between. The settings and the library
that a call uses are each those of the first call that could load them, whatever the
directory holds later, and a load that fails leaves nothing behind.
-/

namespace DesignRules.Server

/-! ## Histories -/

/-- A call of the service or a change of its directory. -/
inductive Event where
  | getSettings
  | check (timestamp : String) (q : Inquiry)
  | write (path : Path) (text : String)
  | delete (path : Path)

namespace Event

variable [Yaml.Engine] [Pattern.Engine]

def directory (d : Directory) : Event → Directory
  | .write path text => (d.write path text).1
  | .delete path => (d.delete path).1
  | _ => d

def service (d : Directory) (s : Service) : Event → Service
  | .getSettings => (s.getSettings d).1
  | .check timestamp q => (s.check timestamp d q).1
  | _ => s

/-- A check that comes with components of the caller, all of them well formed. -/
def IsProperCheck : Event → Prop
  | .check _ q => ∃ supplied, q.components = .ok supplied
  | _ => False

def AsksSettings (e : Event) : Prop := e = .getSettings ∨ e.IsProperCheck

end Event

def directoryAfter (start : Directory) (past : List Event) : Directory :=
  past.foldl Event.directory start

def serviceAfter [Yaml.Engine] [Pattern.Engine] (start : Directory) (s : Service) :
    List Event → Service
  | [] => s
  | e :: rest => serviceAfter (e.directory start) (e.service start s) rest

/-! ## First successes -/

section First

variable {α : Type} {gives : List Event → Event → α → Prop} {past before after : List Event}
  {e : Event} {a : α}

/-- What the first event gives that gives anything. Whether an event gives something may
depend on the events before it. -/
def First (gives : List Event → Event → α → Prop) (past : List Event) (a : α) : Prop :=
  ∃ before e after, past = before ++ e :: after ∧ gives before e a ∧
    ∀ before' e' after', before = before' ++ e' :: after' → ∀ a', ¬ gives before' e' a'

theorem exists_first (hpast : past = before ++ e :: after) (h : gives before e a) :
    ∃ a, First gives past a := by
  induction hn : before.length using Nat.strongRecOn generalizing before e after a with
  | ind n ih =>
    by_cases hfirst : ∃ before' e' after' a', before = before' ++ e' :: after' ∧
        gives before' e' a'
    · obtain ⟨before', e', after', a', rfl, h'⟩ := hfirst
      have hshorter : before'.length < n := by
        rw [← hn, List.length_append, List.length_cons]
        omega
      exact ih _ hshorter (hpast.trans (List.append_assoc _ _ _)) h' rfl
    · refine ⟨a, before, e, after, hpast, h, fun before' e' after' hbefore a' h' => hfirst ?_⟩
      exact ⟨before', e', after', a', hbefore, h'⟩

theorem first_nil : ¬ First gives [] a := by
  rintro ⟨before, e, after, h, -⟩
  simp at h

theorem first_concat_iff : First gives (past ++ [e]) a ↔
    First gives past a ∨ (¬ ∃ a, First gives past a) ∧ gives past e a := by
  constructor
  · rintro ⟨before, e', after, hpast, h, hfirst⟩
    rcases List.eq_nil_or_concat' after with rfl | ⟨after', last, rfl⟩
    · obtain ⟨rfl, hlast⟩ := List.append_inj' hpast rfl
      obtain rfl := List.singleton_inj.mp hlast
      refine .inr ⟨?_, h⟩
      rintro ⟨a', before', e', after', hbefore, h', -⟩
      exact hfirst before' e' after' hbefore a' h'
    · rw [← List.cons_append, ← List.append_assoc] at hpast
      exact .inl ⟨before, e', after', List.append_inj_left' hpast rfl, h, hfirst⟩
  · rintro (⟨before, e', after, rfl, h, hfirst⟩ | ⟨hnone, h⟩)
    · exact ⟨before, e', after ++ [e], by simp, h, hfirst⟩
    · refine ⟨past, e, [], rfl, h, fun before' e' after' hpast a' h' => hnone ?_⟩
      exact exists_first hpast h'

end First

/-! ## One event -/

section Engines

variable [Yaml.Engine]

open Service in
/-- What an event makes of a service whose directory is `d`. -/
inductive Moves (d : Directory) (s : Service) : Event → Service → Prop where
  | idle {e : Event} (h : ¬ e.AsksSettings) : Moves d s e s
  | withoutSettings {e : Event} {cause : LoadFailure} (h : e.AsksSettings)
      (hs : s.currentSettings d = .error cause) : Moves d s e s
  | settings {settings : Settings} (hs : s.currentSettings d = .ok settings) :
      Moves d s .getSettings { s with settings := some settings }
  | withoutLibrary {e : Event} {settings : Settings} {cause : LoadFailure} (h : e.IsProperCheck)
      (hs : s.currentSettings d = .ok settings) (hl : s.currentLibrary d = .error cause) :
      Moves d s e { s with settings := some settings }
  | loaded {e : Event} {settings : Settings} {library : List Component} (h : e.IsProperCheck)
      (hs : s.currentSettings d = .ok settings) (hl : s.currentLibrary d = .ok library) :
      Moves d s e { s with settings := some settings, library := some library }

namespace Moves

open Service

variable {d : Directory} {s s' : Service} {e : Event}

theorem service [Pattern.Engine] (d : Directory) (s : Service) (e : Event) :
    Moves d s e (e.service d s) := by
  cases e with
  | getSettings =>
    change Moves d s _ (s.getSettings d).1
    cases hs : s.currentSettings d with
    | error cause =>
      rw [getSettings_of_error hs]
      exact .withoutSettings (.inl rfl) hs
    | ok settings =>
      rw [getSettings_of_ok hs]
      exact .settings hs
  | check timestamp q =>
    change Moves d s _ (s.check timestamp d q).1
    cases hq : q.components with
    | error failure =>
      rw [check_of_malformed hq]
      exact .idle (by simp [Event.AsksSettings, Event.IsProperCheck, hq])
    | ok supplied =>
      have hproper : (Event.check timestamp q).IsProperCheck := ⟨supplied, hq⟩
      cases hs : s.currentSettings d with
      | error cause =>
        rw [check_of_settings_error hq hs]
        exact .withoutSettings (.inr hproper) hs
      | ok settings =>
        cases hl : s.currentLibrary d with
        | error cause =>
          rw [check_of_library_error hq hs hl]
          exact .withoutLibrary hproper hs hl
        | ok library =>
          rw [check_of_loaded hq hs hl]
          exact .loaded hproper hs hl
  | write path text => exact .idle (by simp [Event.AsksSettings, Event.IsProperCheck])
  | delete path => exact .idle (by simp [Event.AsksSettings, Event.IsProperCheck])

theorem checkOptionalPorts_eq (h : Moves d s e s') :
    s'.checkOptionalPorts = s.checkOptionalPorts := by
  cases h <;> rfl

/-- An event adds settings exactly if none are known, it asks for them and they can be loaded. -/
theorem settings_iff (h : Moves d s e s') (settings : Settings) :
    s'.settings = some settings ↔ s.settings = some settings ∨
      s.settings = none ∧ e.AsksSettings ∧ d.settings = .ok settings := by
  cases h with
  | idle h => simp [h]
  | withoutSettings h hs =>
    obtain ⟨hnone, hd⟩ := knownOr_eq_error_iff.mp hs
    simp [hnone, hd]
  | settings hs =>
    rcases knownOr_eq_ok_iff.mp hs with hknown | ⟨hnone, hd⟩
    · simp [hknown]
    · simp [hnone, hd, Event.AsksSettings]
  | withoutLibrary h hs hl | loaded h hs hl =>
    rcases knownOr_eq_ok_iff.mp hs with hknown | ⟨hnone, hd⟩
    · simp [hknown]
    · simp [hnone, hd, Event.AsksSettings, h]

/-- An event adds a library exactly if none is known, it is a check that has settings and the
library can be loaded. -/
theorem library_iff (h : Moves d s e s') (library : List Component) :
    s'.library = some library ↔ s.library = some library ∨
      s.library = none ∧ e.IsProperCheck ∧ (∃ settings, s'.settings = some settings) ∧
        d.library = .ok library := by
  cases h with
  | idle h =>
    have hproper : ¬ e.IsProperCheck := fun hproper => h (.inr hproper)
    simp [hproper]
  | withoutSettings h hs =>
    obtain ⟨hnone, hd⟩ := knownOr_eq_error_iff.mp hs
    simp [hnone]
  | settings hs => simp [Event.IsProperCheck]
  | withoutLibrary h hs hl =>
    obtain ⟨hnone, hd⟩ := knownOr_eq_error_iff.mp hl
    simp [hnone, hd]
  | loaded h hs hl =>
    rcases knownOr_eq_ok_iff.mp hl with hknown | ⟨hnone, hd⟩
    · simp [hknown]
    · simp [hnone, hd, h]

end Moves

/-! ## Whole histories -/

section History

variable (start : Directory)

/-- The event asks for the settings, and the directory that it finds has these. -/
def GivesSettings (before : List Event) (e : Event) (settings : Settings) : Prop :=
  e.AsksSettings ∧ (directoryAfter start before).settings = .ok settings

/-- The event is a check that has settings, and the directory that it finds has this library. -/
def GivesLibrary (before : List Event) (e : Event) (library : List Component) : Prop :=
  e.IsProperCheck ∧ (∃ settings, First (GivesSettings start) (before ++ [e]) settings) ∧
    (directoryAfter start before).library = .ok library

/-- The service holds what was first loaded in the past, and nothing if nothing was. -/
structure Service.Remembers (s : Service) (past : List Event) : Prop where
  settings : ∀ settings, s.settings = some settings ↔ First (GivesSettings start) past settings
  library : ∀ library, s.library = some library ↔ First (GivesLibrary start) past library

variable {start} {s s' : Service} {past : List Event} {e : Event}

theorem serviceAfter_concat [Pattern.Engine] : serviceAfter start s (past ++ [e]) =
    e.service (directoryAfter start past) (serviceAfter start s past) := by
  induction past generalizing start s with
  | nil => rfl
  | cons first past ih => exact ih

namespace Service.Remembers

theorem settings_eq_none_iff (h : s.Remembers start past) :
    s.settings = none ↔ ¬ ∃ settings, First (GivesSettings start) past settings := by
  rw [Option.eq_none_iff_forall_ne_some]
  simp only [ne_eq, h.settings, not_exists]

theorem library_eq_none_iff (h : s.Remembers start past) :
    s.library = none ↔ ¬ ∃ library, First (GivesLibrary start) past library := by
  rw [Option.eq_none_iff_forall_ne_some]
  simp only [ne_eq, h.library, not_exists]

theorem currentSettings_eq_ok_iff (h : s.Remembers start past) (hasks : e.AsksSettings)
    {settings : Settings} : s.currentSettings (directoryAfter start past) = .ok settings ↔
      First (GivesSettings start) (past ++ [e]) settings := by
  rw [currentSettings, knownOr_eq_ok_iff, first_concat_iff, h.settings, h.settings_eq_none_iff,
    GivesSettings, and_iff_right hasks]

theorem currentLibrary_eq_ok_iff (h : s.Remembers start past) (hcheck : e.IsProperCheck)
    (hs : ∃ settings, First (GivesSettings start) (past ++ [e]) settings)
    {library : List Component} : s.currentLibrary (directoryAfter start past) = .ok library ↔
      First (GivesLibrary start) (past ++ [e]) library := by
  rw [currentLibrary, knownOr_eq_ok_iff, first_concat_iff, h.library, h.library_eq_none_iff,
    GivesLibrary, and_iff_right hcheck, and_iff_right hs]

/-- One event more keeps what is held and adds what it is the first to load. -/
theorem concat (h : s.Remembers start past) (hmoves : Moves (directoryAfter start past) s e s') :
    s'.Remembers start (past ++ [e]) := by
  have hsettings : ∀ settings, s'.settings = some settings ↔
      First (GivesSettings start) (past ++ [e]) settings := by
    intro settings
    rw [hmoves.settings_iff, first_concat_iff, h.settings, h.settings_eq_none_iff]
    rfl
  refine ⟨hsettings, fun library => ?_⟩
  rw [hmoves.library_iff, first_concat_iff, h.library, h.library_eq_none_iff]
  simp only [hsettings]
  rfl

end Service.Remembers

theorem remembers_serviceAfter [Pattern.Engine] (start : Directory) (checkOptionalPorts : Bool)
    (past : List Event) :
    (serviceAfter start (.new checkOptionalPorts) past).Remembers start past := by
  induction past using List.reverseRecOn with
  | nil =>
    refine ⟨fun settings => ⟨fun h => ?_, fun h => absurd h first_nil⟩,
      fun library => ⟨fun h => ?_, fun h => absurd h first_nil⟩⟩ <;> cases h
  | append_singleton past e ih =>
    rw [serviceAfter_concat]
    exact ih.concat (.service _ _ e)

theorem checkOptionalPorts_serviceAfter [Pattern.Engine] (start : Directory) (s : Service)
    (past : List Event) :
    (serviceAfter start s past).checkOptionalPorts = s.checkOptionalPorts := by
  induction past generalizing start s with
  | nil => rfl
  | cons e past ih => exact (ih _ _).trans (Moves.service start s e).checkOptionalPorts_eq

/-- The outcome of a check after a past, told by what was first loaded. Each load is tried
before the diagram is looked at. -/
structure Answers [Pattern.Engine] (start : Directory) (past : List Event) (byDefault : Bool)
    (timestamp : String) (q : Inquiry) (supplied : List Component)
    (outcome : Except Failure Run) : Prop where
  withoutSettings : (¬ ∃ settings, First (GivesSettings start) past settings) →
    ∀ cause, (directoryAfter start past).settings = .error cause → outcome = .error (.load cause)
  withoutLibrary : ∀ settings,
    First (GivesSettings start) (past ++ [.check timestamp q]) settings →
    (¬ ∃ library, First (GivesLibrary start) past library) →
    ∀ cause, (directoryAfter start past).library = .error cause → outcome = .error (.load cause)
  loaded : ∀ settings library,
    First (GivesSettings start) (past ++ [.check timestamp q]) settings →
    First (GivesLibrary start) (past ++ [.check timestamp q]) library →
    outcome = do
      let options ← q.options byDefault
      let diagram ← (Diagram.read q.diagram).mapError .badDiagram
      (Analysis.run timestamp ⟨⟨diagram, supplied ++ library⟩, options, settings, none⟩).mapError
        .check

theorem Service.Remembers.answers [Pattern.Engine] {q : Inquiry} {supplied : List Component}
    {timestamp : String} (h : s.Remembers start past) (hq : q.components = .ok supplied) :
    Answers start past s.checkOptionalPorts timestamp q supplied
      (s.check timestamp (directoryAfter start past) q).2 := by
  have hproper : (Event.check timestamp q).IsProperCheck := ⟨supplied, hq⟩
  refine ⟨fun hnone cause hd => ?_, fun settings hs hnone cause hd => ?_,
    fun settings library hs hl => ?_⟩
  · rw [check_of_settings_error hq
      (knownOr_eq_error_iff.mpr ⟨h.settings_eq_none_iff.mpr hnone, hd⟩)]
  · rw [check_of_library_error hq ((h.currentSettings_eq_ok_iff (.inr hproper)).mpr hs)
      (knownOr_eq_error_iff.mpr ⟨h.library_eq_none_iff.mpr hnone, hd⟩)]
  · rw [check_of_loaded hq ((h.currentSettings_eq_ok_iff (.inr hproper)).mpr hs)
      ((h.currentLibrary_eq_ok_iff hproper ⟨settings, hs⟩).mpr hl)]
    rfl

/-- After any history a service holds what was first loaded, each of the two on its own, and
answers from it. A malformed catalogue is told before anything is loaded. -/
theorem calls_after [Pattern.Engine] (start : Directory) (byDefault : Bool) (past : List Event)
    (timestamp : String) :
    let d := directoryAfter start past
    let s := serviceAfter start (.new byDefault) past
    s.Remembers start past ∧
    (∀ settings, (s.getSettings d).2 = .ok settings ↔
      First (GivesSettings start) (past ++ [.getSettings]) settings) ∧
    (∀ cause, (s.getSettings d).2 = .error cause ↔
      (¬ ∃ settings, First (GivesSettings start) past settings) ∧ d.settings = .error cause) ∧
    (∀ q items issues, q.catalogue = .list items → Component.readEach items = .invalid issues →
      s.check timestamp d q = (s, .error (.badCatalogue issues))) ∧
    ∀ q supplied, q.components = .ok supplied →
      Answers start past byDefault timestamp q supplied (s.check timestamp d q).2 := by
  intro d s
  have hs : s.Remembers start past := remembers_serviceAfter start byDefault past
  refine ⟨hs, fun settings => ?_, fun cause => ?_, fun q items issues hq h => ?_,
    fun q supplied hq => ?_⟩
  · rw [Service.snd_getSettings, hs.currentSettings_eq_ok_iff (.inl rfl)]
  · rw [Service.snd_getSettings, Service.currentSettings, Service.knownOr_eq_error_iff,
      hs.settings_eq_none_iff]
  · exact Service.check_of_malformed (Inquiry.components_of_invalid hq h)
  · have hdefault : s.checkOptionalPorts = byDefault := checkOptionalPorts_serviceAfter start _ past
    rw [← hdefault]
    exact hs.answers hq

end History

end Engines

def brokenSettings : Event := .write Directory.settingsPath "["

/-- Settings that cannot be read make a check fail. Once their file is gone the same service has
the default ones. -/
theorem calls_after_brokenSettings :
    plainInquiry.components = .ok [] ∧
    ((serviceAfter .empty (.new false) [brokenSettings]).check ""
      (directoryAfter .empty [brokenSettings]) plainInquiry).2 =
        .error (.load (.badFile "drc-settings.yaml")) ∧
    First (GivesSettings .empty)
      [brokenSettings, .check "" plainInquiry, .delete Directory.settingsPath, .getSettings]
      Settings.default := by
  have hq : plainInquiry.components = .ok [] := rfl
  have hbroken : (directoryAfter .empty [brokenSettings]).settings =
      .error (.badFile "drc-settings.yaml") := by
    decide +kernel
  have hgone : ((serviceAfter .empty (.new false) [brokenSettings, .check "" plainInquiry,
      .delete Directory.settingsPath]).getSettings (directoryAfter .empty [brokenSettings,
        .check "" plainInquiry, .delete Directory.settingsPath])).2 = .ok Settings.default := by
    decide +kernel
  obtain ⟨hs, -, -, -, hchecks⟩ := calls_after .empty false [brokenSettings] ""
  obtain ⟨-, hsettings, -⟩ := calls_after .empty false
    [brokenSettings, .check "" plainInquiry, .delete Directory.settingsPath] ""
  refine ⟨hq, ?_, (hsettings _).mp hgone⟩
  exact (hchecks plainInquiry [] hq).withoutSettings (hs.settings_eq_none_iff.mp rfl) _ hbroken

end DesignRules.Server
