import Discography.Api.Service
import Discography.Daemon.State

/-!
# Lifespans

The service opens a pool when it starts and disposes of it when it shuts down. Between the two it
serves requests with the database of the pool; before and after, it has none.
-/

set_option autoImplicit false

namespace Discography.Daemon

open Discography.Api Discography.Connect Discography.Http Discography.Log Discography.Migration
  Discography.Settings Discography.Store

/-- The logger of the service. -/
def serviceLogger : String := "album_catalog.main"

/-- The report on a service that has started. -/
def startedEvent : Event :=
  { level := .info, logger := serviceLogger, message := "Album Catalog API started" }

/-- The report on a service that has shut down. -/
def stoppedEvent : Event :=
  { level := .info, logger := serviceLogger, message := "Album Catalog API shut down" }

namespace State

/-- The process with a new manager of an engine. -/
def withEngine (p : State) (e : Engine) : State :=
  { p with manager := some ⟨p.made, e⟩, made := p.made + 1 }

/-- The service starts: settings, logging, pool. -/
def start (p : State) (s : Sources) : Progress Engine :=
  match p.settings s with
  | (.error t, p) => ⟨.error t, p, []⟩
  | (.ok a, p) =>
    match p.setUpLogging a with
    | (.error t, p) => ⟨.error t, p, []⟩
    | (.ok (), p) =>
      match Engine.sized a.databaseUrl a.poolSize a.maxOverflow with
      | .error f => ⟨.error (.failure f), p, []⟩
      | .ok e => ⟨.ok e, p.withEngine e, p.root.entries startedEvent⟩

/-- The process without a manager; the one that was open is disposed of. -/
def closeManager (p : State) : State :=
  match p.manager with
  | none => p
  | some m => { p with manager := none, disposed := p.disposed ++ [m.number] }

end State

/-- How a lifespan ends. -/
inductive Ending where
  | finished
  /-- By an exception that is thrown into it. -/
  | interrupted
  deriving DecidableEq, Repr

namespace State

/-- The service stops. An exception leaves it where it stands. -/
def stop (p : State) : Ending → State × List Entry
  | .finished => (p.closeManager, p.root.entries stoppedEvent)
  | .interrupted => (p, [])

/-- What the endpoints are given. -/
def context (p : State) : Context := ⟨p.manager.isSome, Draft.problems⟩

/-- The process with the albums of a database written to the file of its manager. -/
def withAlbums (p : State) (d : Database) : State :=
  match p.manager with
  | none => p
  | some m =>
    let l := locationOf m.engine.url
    match p.workspace.read l with
    | .ok f => { p with workspace := p.workspace.write (f.withDatabase d) l }
    | .error _ => p

/-- What a request comes to. -/
structure Served where
  response : Response
  state : State
  entries : List Entry
  readings : Nat
  draws : Nat

/-- A request served after a number of readings of the clock and of ids drawn. -/
def serve (p : State) (supply : Supply) (readings draws : Nat) (r : Request) : Served :=
  let o := Api.serve Backend.database supply p.context r
    { store := p.database, readings := readings, draws := draws }
  { response := o.value
    state := p.withAlbums o.world.store
    entries := o.events.flatMap p.root.entries
    readings := o.world.readings
    draws := o.world.draws }

/-- Requests served one after the other. -/
def serveAll (supply : Supply) : State → Nat → Nat → List Request → List Served
  | _, _, _, [] => []
  | p, readings, draws, r :: rs =>
    let first := p.serve supply readings draws r
    first :: first.state.serveAll supply first.readings first.draws rs

end State

end Discography.Daemon
