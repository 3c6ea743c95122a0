import Discography.Daemon.State

/-!
# The server

How the process comes to listen: the settings are read, logging is set up, the database is migrated
if the settings say so, and the listener is launched with its address.
-/

set_option autoImplicit false

namespace Discography.Daemon

open Discography.Log Discography.Settings Discography.Text

/-- The logger of the server. -/
def serverLogger : String := "album_catalog.server"

/-- What the listener serves. -/
def serviceName : String := "album_catalog.main:app"

/-- What a listener is launched with. -/
structure Launch where
  app : String
  host : String
  port : Int
  /-- The seconds that open requests are given when the listener stops. -/
  grace : Int
  deriving DecidableEq, Repr

/-- The launch that settings ask for. -/
def Launch.ofSettings (a : Settings) : Launch :=
  ⟨serviceName, a.serverHost, a.serverPort, a.shutdownTimeout⟩

/-- The report on a listener that is launched. -/
def listeningEvent (l : Launch) : Event where
  level := .info
  logger := serverLogger
  message := "listening on " ++ l.host ++ ":" ++ signedDecimal l.port

namespace State

/-- The launch that the settings ask for. -/
def configure (p : State) (s : Sources) : Except Trouble Launch × State :=
  match p.settings s with
  | (.ok a, q) => (.ok (.ofSettings a), q)
  | (.error t, q) => (.error t, q)

/-- The database migrated if the settings say so. -/
def migrateIfAsked (p : State) (a : Settings) : Progress Unit :=
  if a.migrate then p.migrate a.databaseUrl a.migrationConfig else ⟨.ok (), p, []⟩

/-- The steps up to the launch of the listener. -/
def launch (p : State) (s : Sources) : Progress Launch :=
  match p.settings s with
  | (.error t, p) => ⟨.error t, p, []⟩
  | (.ok a, p) =>
    match p.setUpLogging a with
    | (.error t, p) => ⟨.error t, p, []⟩
    | (.ok (), p) =>
      let migrated := p.migrateIfAsked a
      match migrated.outcome with
      | .error t => ⟨.error t, migrated.state, migrated.entries⟩
      | .ok () =>
        match migrated.state.configure s with
        | (.error t, p) => ⟨.error t, p, migrated.entries⟩
        | (.ok l, p) => ⟨.ok l, p, migrated.entries ++ p.root.entries (listeningEvent l)⟩

end State

end Discography.Daemon
