import DesignRules.Diagram.Reading
import DesignRules.Server.Directory
import DesignRules.Settings
import DesignRules.Text.Parts
import DesignRules.Yaml.Engine

/-! # Loading settings and components

A directory holds the settings in one file and a library of components in the files of a
folder. Both are read as they are now, by whatever engine there is for YAML; a file that is missing
sets nothing.
-/

namespace DesignRules.Server

open Schema Schema.Checked Yaml

/-- Why a directory cannot be used as it is. -/
inductive LoadFailure where
  /-- A file cannot be read as YAML or does not fit its schema. -/
  | badFile (path : String)
  /-- A scalar in a file has no value. -/
  | badScalar (fault : Yaml.Fault)
  /-- A value where components are looked for has no members. -/
  | badLibrary
  deriving DecidableEq, Repr

namespace Directory

variable [Yaml.Engine]

def pathText (path : Path) : String := "/".intercalate path

def document (d : Directory) (path : Path) : Except LoadFailure (Document Engine.Other) :=
  match d.entry? path with
  | some (.file text) =>
    (Engine.load text).mapError fun fault =>
      if fault = .malformed then .badFile (pathText path) else .badScalar fault
  | _ => .error (.badFile (pathText path))

/-- What fits no schema is the fault of its file. -/
def fitting {α : Type} (path : Path) : Checked α → Except LoadFailure α
  | .valid a => .ok a
  | .invalid _ => .error (.badFile (pathText path))

/-! ## Settings -/

def settingsPath : Path := ["drc-settings.yaml"]

def orEmpty (document : Document Engine.Other) : Document Engine.Other :=
  if document.isTrue then document else .data (.object [])

/-- The settings in a document; what is null, false or empty sets nothing. -/
def settingsIn (document : Document Engine.Other) : Checked Settings :=
  match (orEmpty document).level with
  | .object _ =>
    (orEmpty (((orEmpty document).get? "settings").getD (.data .null))).fit Settings.read
  | _ => fail .notObject

/-- The settings of a directory, which are the default ones if it has no file for them. -/
def settings (d : Directory) : Except LoadFailure Settings :=
  if d.entry? settingsPath = none then .ok .default
  else do fitting settingsPath (settingsIn (← d.document settingsPath))

/-! ## Library -/

def libraryFolder : Path := ["component-library"]

def componentsKey : String := "components"

/-- The value at the key for components; `none` if the document has no such key. -/
def componentsIn? (document : Document Engine.Other) :
    Except LoadFailure (Option (Document Engine.Other)) :=
  match document.level with
  | .object _ => .ok (document.get? componentsKey)
  | .list items | .set items =>
    if items.any (·.isText componentsKey) then .error .badLibrary else .ok none
  | .scalar (.text s) => if Text.contains s componentsKey then .error .badLibrary else .ok none
  | .scalar _ | .octets _ => if document.isTrue then .error .badLibrary else .ok none

def componentsOf (d : Directory) (path : Path) : Except LoadFailure (List Component) := do
  match ← componentsIn? (← d.document path) with
  | none => return []
  | some value =>
    match value.members? with
    | none => .error .badLibrary
    | some members => fitting path (inTurn (Document.fit Component.read) members)

def isLibraryName (name : String) : Bool := ".yaml".toList.isSuffixOf name.toList

/-- The files of the library, in the order of their names. -/
def libraryPaths (d : Directory) : List Path :=
  ((d.names libraryFolder).filter isLibraryName).map fun name => libraryFolder ++ [name]

def library (d : Directory) : Except LoadFailure (List Component) :=
  (d.libraryPaths.mapM d.componentsOf).map List.flatten

end Directory

end DesignRules.Server
