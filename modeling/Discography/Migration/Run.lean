import Discography.Log.Event
import Discography.Migration.Script
import Discography.Migration.Workspace

/-!
# Running migrations

A migration reads a configuration file, puts the address of the database into its options, opens the
database that the options name, and brings it to the latest revision or back to none.
-/

set_option autoImplicit false

namespace Discography.Migration

open Discography.Connect Discography.Log

/-- The logger of migrations. -/
def logger : String := "album_catalog.db.migrations"

/-- The name of the option that holds the address of the database. -/
def addressOption : String := "sqlalchemy.url"

/-- The name of the option that holds the directory of the revisions. -/
def scriptOption : String := "script_location"

/-- The options of the configuration that comes with the service, in a directory. -/
def standardOptions (directory : String) : Options :=
  [("here", directory), (scriptOption, "%(here)s/alembic"), ("prepend_sys_path", "."),
   (addressOption, "")]

/-- An option whose references cannot be replaced. -/
def optionUnreadable : Failure := .fault .value "invalid interpolation syntax"

/-- A configuration that does not tell where the revisions are. -/
def noRevisions : Failure :=
  .fault .command "No \x27script_location\x27 key found in configuration."

/-- Options with the address of a database. -/
def withAddress (o : Options) (url : String) : Option Options :=
  o.set? addressOption (String.ofList (doubled url.toList))

/-- The address that options hold, an empty one counting as none. -/
def heldAddress (o : Options) : Except Failure (Option String) :=
  match o.get? addressOption with
  | none => .error optionUnreadable
  | some none => .ok none
  | some (some url) => .ok (if url = "" then none else some url)

/-- The directory of the revisions is known. -/
def checkRevisions (o : Options) : Except Failure Unit :=
  match o.get? scriptOption with
  | none => .error optionUnreadable
  | some none => .error noRevisions
  | some (some _) => .ok ()

/-- The address that options hold, once the directory of the revisions is known. -/
def addressOf (o : Options) : Except Failure (Option String) := do
  checkRevisions o
  heldAddress o

/-- The address that a migration works on: the one that the options hold, or else the one of the
settings. -/
def databaseAddress (o : Options) (settings : Except Failure String) : Except Failure String := do
  match ← heldAddress o with
  | some url => pure url
  | none => settings

/-- The options of an online migration: all of them are read, and the address of the database is put
in as it is. -/
def onlineOptions (o : Options) (settings : Except Failure String) : Except Failure Options :=
  match o.readAll? with
  | none => .error optionUnreadable
  | some read => (databaseAddress o settings).map fun url => read ++ [(addressOption, url)]

/-- The address that an online migration opens. -/
def onlineAddress (o : Options) (settings : Except Failure String) : Except Failure String := do
  checkRevisions o
  let read ← onlineOptions o settings
  pure ((read.raw? addressOption).getD "")

/-- A database opened for a migration, by a driver that does not block. -/
def openLocation (url : String) : Except Failure Location := do
  let u ← Url.parse url
  let d ← driverFor u
  if d.isAsync then .ok (locationOf u) else .error (driverBlocks d)

/-- What a migration comes to, and the workspace after it. -/
structure Migrated where
  outcome : Except Failure Unit
  workspace : Workspace

/-- The options of a configuration file, none if there is no such file. -/
def Workspace.optionsOf (w : Workspace) (config : String) : Options :=
  (w.configuration? config).getD []

/-- A change of the data file of an address. -/
def Workspace.changeAt (w : Workspace) (url : String)
    (change : DataFile → Except Failure DataFile) : Migrated :=
  let found : Except Failure (Location × DataFile) := do
    let l ← openLocation url
    let f ← w.read l
    let g ← change f
    pure (l, g)
  match found with
  | .error e => ⟨.error e, w⟩
  | .ok (l, g) => ⟨.ok (), w.write g l⟩

/-- A change of the data file of an address, which is put into the options of a configuration file
and read from there. The settings would give the same address. -/
def Workspace.migrate (w : Workspace) (url config : String)
    (change : DataFile → Except Failure DataFile) : Migrated :=
  match withAddress (w.optionsOf config) url with
  | none => ⟨.error optionUnreadable, w⟩
  | some o =>
    match onlineAddress o (.ok url) with
    | .error e => ⟨.error e, w⟩
    | .ok url => w.changeAt url change

/-- The report on an upgrade that begins. -/
def upgradeEvent : Event where
  level := .info
  logger := logger
  message := "Migrating database"
  extras := { operation := some "upgrade head" }

/-- The database of an address brought to the latest revision. -/
def Workspace.upgrade (w : Workspace) (url config : String) : Migrated :=
  w.migrate url config DataFile.upgrade

/-- The database of an address brought back to no revision. -/
def Workspace.downgrade (w : Workspace) (url config : String) : Migrated :=
  w.migrate url config DataFile.downgrade

/-- The address that a configuration file holds, if it holds one. -/
def Workspace.addressIn (w : Workspace) (config : String) : Except Failure (Option String) :=
  addressOf (w.optionsOf config)

/-- The script for an address. -/
def scriptFor (url : String) : Except Failure (List String) := do
  let u ← Url.parse url
  let writing ← writingFor u
  pure (script writing)

end Discography.Migration
