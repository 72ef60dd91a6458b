import DesignRules.Analysis
import DesignRules.Server.Loading

/-! # The checking service

A service checks diagrams with the settings and the library of a directory, which an engine
for YAML reads, and with an engine for patterns. Settings and library are each loaded when they
are first needed and kept from then on, whatever the directory holds later; a load that fails
leaves nothing behind.
-/

namespace DesignRules.Server

open Schema

/-- Why a call of the service fails. -/
inductive Failure where
  | load (cause : LoadFailure)
  | badDiagram (cause : Diagram.Rejection)
  | badCatalogue (issues : List Issue)
  /-- The catalogue of the caller has no members. -/
  | noCatalogue
  | badOptions (issues : List Issue)
  | check (cause : CheckFailure)
  deriving DecidableEq, Repr

/-- A diagram to check, with the components that the caller knows. A null stands for what
the caller does not give. -/
structure Inquiry where
  diagram : Datum
  catalogue : Datum
  checkOptionalPorts : Datum

namespace Inquiry

def components (q : Inquiry) : Except Failure (List Component) :=
  if !q.catalogue.isTrue then .ok []
  else match q.catalogue.members? with
    | none => .error .noCatalogue
    | some members =>
      match Component.readEach members with
      | .valid components => .ok components
      | .invalid issues => .error (.badCatalogue issues)

def options (byDefault : Bool) (q : Inquiry) : Except Failure Options :=
  if q.checkOptionalPorts.isNull then .ok ⟨byDefault⟩
  else match Options.ofFields [("check_optional_ports", q.checkOptionalPorts)] with
    | .valid options => .ok options
    | .invalid issues => .error (.badOptions issues)

end Inquiry

structure Service where
  /-- Optional ports are checked unless the caller says otherwise. -/
  checkOptionalPorts : Bool
  settings : Option Settings
  library : Option (List Component)

namespace Service

variable [Yaml.Engine] [Pattern.Engine]

/-- A service that has loaded nothing yet. -/
def new (checkOptionalPorts : Bool) : Service := ⟨checkOptionalPorts, none, none⟩

/-- What is known already, or else what is found now. -/
def knownOr {α : Type} (known : Option α) (found : Except LoadFailure α) : Except LoadFailure α :=
  match known with
  | some a => .ok a
  | none => found

def currentSettings (d : Directory) (s : Service) : Except LoadFailure Settings :=
  knownOr s.settings d.settings

def currentLibrary (d : Directory) (s : Service) : Except LoadFailure (List Component) :=
  knownOr s.library d.library

def getSettings (d : Directory) (s : Service) : Service × Except LoadFailure Settings :=
  match s.currentSettings d with
  | .error cause => (s, .error cause)
  | .ok settings => ({ s with settings := some settings }, .ok settings)

def getLibrary (d : Directory) (s : Service) : Service × Except LoadFailure (List Component) :=
  match s.currentLibrary d with
  | .error cause => (s, .error cause)
  | .ok library => ({ s with library := some library }, .ok library)

/-- Settings and library; without settings the library is not looked at. -/
def load (d : Directory) (s : Service) :
    Service × Except LoadFailure (Settings × List Component) :=
  match s.getSettings d with
  | (s, .error cause) => (s, .error cause)
  | (s, .ok settings) =>
    match s.getLibrary d with
    | (s, .error cause) => (s, .error cause)
    | (s, .ok library) => (s, .ok (settings, library))

/-- Checks a diagram; the components of the caller come before those of the library. -/
def analyze (timestamp : String) (byDefault : Bool) (q : Inquiry) (supplied : List Component)
    (settings : Settings) (library : List Component) : Except Failure Run := do
  let options ← q.options byDefault
  let diagram ← (Diagram.read q.diagram).mapError .badDiagram
  (Analysis.run timestamp ⟨⟨diagram, supplied ++ library⟩, options, settings, none⟩).mapError .check

def check (timestamp : String) (d : Directory) (q : Inquiry) (s : Service) :
    Service × Except Failure Run :=
  match q.components with
  | .error failure => (s, .error failure)
  | .ok supplied =>
    match s.load d with
    | (s, .error cause) => (s, .error (.load cause))
    | (s, .ok (settings, library)) =>
      (s, analyze timestamp s.checkOptionalPorts q supplied settings library)

end Service

end DesignRules.Server
