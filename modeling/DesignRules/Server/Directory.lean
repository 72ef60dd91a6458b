import DesignRules.Text.Parts

/-! # Directories

A directory maps paths to files and folders; the empty path is the directory itself. A
file brings the folders above it into being, and they stay when it is deleted.
-/

namespace DesignRules.Server

/-- The names on the way to an entry. -/
abbrev Path := List String

def Path.ofText (path : String) : Path := (Text.pathParts path.toList).map String.ofList

inductive Entry where
  | folder
  | file (text : String)
  deriving DecidableEq, Repr

/-- Why a change of a directory fails. -/
inductive ChangeFailure where
  /-- Nothing is at the path. -/
  | absent
  /-- A folder is at the path. -/
  | isFolder
  /-- What should be the folder of the path is a file. -/
  | folderIsFile
  /-- The path goes through a file. -/
  | throughFile
  /-- The text holds a half of a surrogate pair. -/
  | brokenText
  deriving DecidableEq, Repr

structure Directory where
  entries : List (Path × Entry)

namespace Directory

/-- A directory that does not exist. -/
def empty : Directory := ⟨[]⟩

def entry? (d : Directory) (path : Path) : Option Entry := d.entries.lookup path

def isFile (d : Directory) (path : Path) : Bool :=
  match d.entry? path with
  | some (.file _) => true
  | _ => false

/-- The paths above one, the root first. -/
def above : Path → List Path
  | [] => []
  | name :: rest => [] :: (above rest).map (name :: ·)

def erase (d : Directory) (path : Path) : Directory := ⟨d.entries.filter (·.1 != path)⟩

def put (d : Directory) (path : Path) (e : Entry) : Directory :=
  ⟨(path, e) :: (d.erase path).entries⟩

def addFolder (d : Directory) (path : Path) : Directory :=
  if (d.entry? path).isSome then d else d.put path .folder

/-- Puts a file where it is possible. -/
def place (d : Directory) (path : Path) (text : String) : Directory :=
  ((above path).foldl addFolder d).put path (.file text)

def ofFiles (files : List (Path × String)) : Directory :=
  files.foldl (fun d file => d.place file.1 file.2) empty

/-- Writes a file, over the one that is there. A text that cannot be written leaves an
empty file. -/
def write (d : Directory) (path : Path) (text : String) : Directory × Option ChangeFailure :=
  if (above path.dropLast).any d.isFile then (d, some .throughFile)
  else if (above path).any d.isFile then (d, some .folderIsFile)
  else if d.entry? path = some .folder then (d, some .isFolder)
  else if Text.isBroken text then (d.place path "", some .brokenText)
  else (d.place path text, none)

def delete (d : Directory) (path : Path) : Directory × Option ChangeFailure :=
  if (above path).any d.isFile then (d, some .throughFile)
  else match d.entry? path with
    | none => (d, some .absent)
    | some .folder => (d, some .isFolder)
    | some (.file _) => (d.erase path, none)

/-- The names in a folder, sorted. -/
def names (d : Directory) (folder : Path) : List String :=
  Text.sorted (d.entries.filterMap fun entry =>
    if entry.1.dropLast = folder then entry.1.getLast? else none)

end Directory

end DesignRules.Server
