import DesignRules.Proofs.Outcome
import DesignRules.Server.Service

/-! # Calls of the service

What one call does, by what is known already and what the directory holds. A check looks at
the catalogue of the caller, then at the settings, the library and the diagram, and stops at
the first of them that is at fault.
-/

namespace DesignRules.Server

theorem Inquiry.components_of_invalid {q : Inquiry} {items : List Datum}
    {issues : List Schema.Issue} (hq : q.catalogue = .list items)
    (h : Component.readEach items = .invalid issues) :
    q.components = .error (.badCatalogue issues) := by
  cases items with
  | nil => cases h
  | cons item items => simp [Inquiry.components, hq, Datum.isTrue, Datum.members?, h]

namespace Service

variable {α : Type} {cause : LoadFailure}

theorem knownOr_eq_ok_iff {known : Option α} {found : Except LoadFailure α} {a : α} :
    knownOr known found = .ok a ↔ known = some a ∨ known = none ∧ found = .ok a := by
  cases known <;> simp [knownOr]

theorem knownOr_eq_error_iff {known : Option α} {found : Except LoadFailure α} :
    knownOr known found = .error cause ↔ known = none ∧ found = .error cause := by
  cases known <;> simp [knownOr]

variable [Yaml.Engine] {d : Directory} {s : Service} {settings : Settings}

theorem snd_getSettings (d : Directory) (s : Service) :
    (s.getSettings d).2 = s.currentSettings d := by
  unfold getSettings
  cases s.currentSettings d <;> rfl

theorem getSettings_of_ok (h : s.currentSettings d = .ok settings) :
    s.getSettings d = ({ s with settings := some settings }, .ok settings) := by
  rw [getSettings, h]

theorem getSettings_of_error (h : s.currentSettings d = .error cause) :
    s.getSettings d = (s, .error cause) := by
  rw [getSettings, h]

variable [Pattern.Engine] {q : Inquiry} {timestamp : String} {supplied library : List Component}

theorem check_of_malformed {failure : Failure} (h : q.components = .error failure) :
    s.check timestamp d q = (s, .error failure) := by
  rw [check, h]

section Load

variable (hq : q.components = .ok supplied)

include hq

theorem check_of_settings_error (h : s.currentSettings d = .error cause) :
    s.check timestamp d q = (s, .error (.load cause)) := by
  rw [check, hq, load, getSettings_of_error h]

theorem check_of_library_error (hs : s.currentSettings d = .ok settings)
    (hl : s.currentLibrary d = .error cause) :
    s.check timestamp d q = ({ s with settings := some settings }, .error (.load cause)) := by
  have hl : currentLibrary d { s with settings := some settings } = .error cause := hl
  simp only [check, hq, load, getSettings_of_ok hs, getLibrary, hl]

theorem check_of_loaded (hs : s.currentSettings d = .ok settings)
    (hl : s.currentLibrary d = .ok library) :
    s.check timestamp d q = ({ s with settings := some settings, library := some library },
      analyze timestamp s.checkOptionalPorts q supplied settings library) := by
  have hl : currentLibrary d { s with settings := some settings } = .ok library := hl
  simp only [check, hq, load, getSettings_of_ok hs, getLibrary, hl]

end Load

end Service

/-- An inquiry about a diagram without components, with nothing but the diagram given. -/
def plainInquiry : Inquiry := ⟨.object [("nodes", .list []), ("edges", .list [])], .null, .null⟩

end DesignRules.Server
