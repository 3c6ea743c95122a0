import Discography.Connect.Engine
import Discography.Migration.Options
import Discography.Migration.Schema

/-!
# Workspaces

The directory in which the service works, with its data files, and the configuration files that there
are. A path is taken from the directory unless it is absolute. Data files can only be opened in the
directory itself. No server is within reach: an address that leads to one is answered by silence.

* `file?_putFile` — a file that was put is found under its name.
-/

set_option autoImplicit false

namespace Discography.Migration

open Discography.Connect Discography.Store

/-- A directory with data files, and configuration files by their paths. -/
structure Workspace where
  directory : String
  configurations : List (String × Options) := []
  files : List (String × DataFile) := []
  deriving DecidableEq

/-- The steps of a path without those that lead nowhere. -/
def steps (path : String) : List String :=
  ((path.toList.splitOn '/').map String.ofList).foldl (fun done step =>
    if step = "" ∨ step = "." then done
    else if step = ".." then done.dropLast
    else done ++ [step]) []

namespace Workspace

/-- The steps from the root to what a path names. -/
def locate (w : Workspace) (path : String) : List String :=
  if path.toList.head? = some '/' then steps path else steps (w.directory ++ "/" ++ path)

/-- The name of a path's file, if it stands in the directory itself. -/
def name? (w : Workspace) (path : String) : Option String :=
  let place := w.locate path
  if place.dropLast = steps w.directory then place.getLast? else none

/-- The options of a configuration file, if there is one. -/
def configuration? (w : Workspace) (path : String) : Option Options :=
  (w.configurations.find? fun c => w.locate c.1 == w.locate path).map (·.2)

/-- The file of a name. -/
def file? (w : Workspace) (name : String) : Option DataFile := w.files.lookup name

/-- A workspace with a file under a name. -/
def putFile (w : Workspace) (name : String) (f : DataFile) : Workspace :=
  { w with files := (name, f) :: w.files.filter fun p => p.1 != name }

theorem file?_putFile (w : Workspace) (name : String) (f : DataFile) :
    (w.putFile name f).file? name = some f := by
  simp [file?, putFile]

/-- The names of the files, in ascending order. -/
def names (w : Workspace) : List String :=
  (w.files.map (·.1)).mergeSort fun a b => decide (a ≤ b)

end Workspace

/-! ## Where an address leads -/

/-- Where the database of an address is. -/
inductive Location where
  | memory
  | file (path : String)
  | server
  deriving DecidableEq, Repr

/-- The words for an option that is on. -/
def trueWords : List String := ["true", "yes", "on", "y", "t", "1"]

/-- Where the database of an address is. -/
def locationOf (u : Url) : Location :=
  let asUri := (u.option? "uri").any fun word =>
    trueWords.contains (String.ofList (word.toList.map Char.toLower))
  match u.dialect == "sqlite", u.database with
  | false, _ => .server
  | true, none => .memory
  | true, some name =>
    let scheme := "file:".toList
    if asUri && scheme.isPrefixOf name.toList then
      if u.option? "mode" = some "memory" || occurs memoryWord.toList name.toList then .memory
      else .file (String.ofList (name.toList.drop scheme.length))
    else if name = "" ∨ name = memoryWord then .memory
    else .file name

/-- A server that does not answer. -/
def serverSilent : Failure := .fault .connection "the server does not answer"

namespace Workspace

/-- What is found at a location: a file that is not there yet is empty, a database in memory is a new
one each time, and servers are silent. -/
def read (w : Workspace) : Location → Except Failure DataFile
  | .memory => .ok {}
  | .server => .error serverSilent
  | .file path =>
    match w.name? path with
    | none => .error .databaseUnopenable
    | some name => .ok ((w.file? name).getD {})

/-- A workspace with a file written at a location. -/
def write (w : Workspace) (f : DataFile) : Location → Workspace
  | .file path =>
    match w.name? path with
    | none => w
    | some name => w.putFile name f
  | _ => w

/-- The database of the catalog at a location. -/
def database (w : Workspace) (l : Location) : Database :=
  match w.read l with
  | .ok f => f.database
  | .error _ => .unopenable

end Workspace

end Discography.Migration
