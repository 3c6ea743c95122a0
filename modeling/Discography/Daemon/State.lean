import Discography.Log.Root
import Discography.Migration.Run
import Discography.Settings.Cache

/-!
# The state of the process

What the process holds between its steps: the settings it remembers, the root of logging, its
workspace, and the manager of the pool that is open. Managers are numbered as they are made.
-/

set_option autoImplicit false

namespace Discography.Daemon

open Discography.Connect Discography.Log Discography.Migration Discography.Settings
  Discography.Store

/-- Why a step of the process failed. -/
inductive Trouble where
  | settings (complaints : List Complaint)
  | failure (f : Failure)
  deriving DecidableEq, Repr

/-- The owner of an engine. -/
structure Manager where
  number : Nat
  engine : Engine
  deriving DecidableEq, Repr

/-- What the process holds. -/
structure State where
  cache : Cache := {}
  root : Root := {}
  workspace : Workspace
  manager : Option Manager := none
  /-- The number of managers that have been made. -/
  made : Nat := 0
  /-- The numbers of the managers that have been disposed of, the first one first. -/
  disposed : List Nat := []
  deriving DecidableEq

/-- What a step comes to: its outcome, the process after it, and the entries that were logged. -/
structure Progress (α : Type) where
  outcome : Except Trouble α
  state : State
  entries : List Entry

namespace State

/-- The settings of the process. -/
def settings (p : State) (s : Sources) : Except Trouble Settings × State :=
  match p.cache.get s with
  | (.ok held, cache) => (.ok held.settings, { p with cache })
  | (.error complaints, cache) => (.error (.settings complaints), { p with cache })

/-- The process after its logging is set up as the settings say. -/
def setUpLogging (p : State) (a : Settings) : Except Trouble Unit × State :=
  let (result, root) := p.root.setUp a.logLevel a.logFormat
  (match result with
    | .ok () => .ok ()
    | .error f => .error (.failure f), { p with root })

/-- The database of the open manager. -/
def database (p : State) : Database :=
  match p.manager with
  | none => .tableless
  | some m => p.workspace.database (locationOf m.engine.url)

/-- The database of an address migrated, with the report on it. -/
def migrate (p : State) (url config : String) : Progress Unit :=
  let result := p.workspace.upgrade url config
  { outcome := match result.outcome with
      | .ok () => .ok ()
      | .error f => .error (.failure f)
    state := { p with workspace := result.workspace }
    entries := p.root.entries upgradeEvent }

/-- The script of the migrations for the address that a configuration file holds, or else for the
one of the settings. -/
def script (p : State) (s : Sources) (config : String) : Except Trouble (List String) × State :=
  let finish := fun url : String =>
    match scriptFor url with
    | .ok statements => Except.ok statements
    | .error f => .error (Trouble.failure f)
  match p.workspace.addressIn config with
  | .error f => (.error (.failure f), p)
  | .ok (some url) => (finish url, p)
  | .ok none =>
    match p.settings s with
    | (.ok a, q) => (finish a.databaseUrl, q)
    | (.error t, q) => (.error t, q)

end State

end Discography.Daemon
