import Discography.Settings.EnvFile
import Discography.Settings.Value
import Discography.Text.Lower

/-!
# Settings

The settings of the service, from arguments, variables of the environment, a file of variables and
defaults, in this order. The first source that gives a setting decides. The address of the database
has two names; the first source that gives either decides, and within it the first name.

* `resolve` — settings, or all complaints in the order of the settings.
* `withDriver_idempotent` — the driver is put into an address once.
-/

set_option autoImplicit false

namespace Discography

/-- The settings of the service. -/
structure Settings where
  serverHost : String
  serverPort : Int
  shutdownTimeout : Int
  databaseUrl : String
  poolSize : Int
  maxOverflow : Int
  migrate : Bool
  migrationConfig : String
  logLevel : String
  logFormat : String
  deriving DecidableEq, Repr

namespace Settings

open Discography.Json Discography.Text

/-- What a source gives, by lower-case names; a later value of a name counts. -/
abbrev Source := List (String × Value)

/-- Where settings come from, the source that is asked first coming first. -/
structure Sources where
  arguments : Source
  environment : Source
  file : Source
  deriving Repr

/-- A problem with a setting, at the name under which it was asked for or given. -/
structure Complaint where
  name : String
  problem : Problem
  deriving DecidableEq, Repr

/-- The variables of an environment as a source. -/
def environmentSource (bindings : List (String × String)) : Source :=
  bindings.map fun v => (lowerText v.1, .text v.2)

/-- The bindings of a file as a source. Names that differ in case are one name; a binding without a
value gives nothing. -/
def fileSource (bindings : List (String × String)) (file : String) : Source :=
  let bound := EnvFile.resolve bindings (EnvFile.read file)
  (EnvFile.settle (bound.map fun b => (lowerText b.1, b.2))).filterMap fun b =>
    b.2.map fun v => (b.1, .text v)

/-- The sources of the process: arguments, variables of the environment and a file of variables. -/
def Sources.of (arguments : Source) (bindings : List (String × String)) (file : String) :
    Sources :=
  ⟨arguments, environmentSource bindings, fileSource bindings file⟩

namespace Sources

/-- The sources in the order in which they are asked. -/
def inOrder (s : Sources) : List Source := [s.arguments, s.environment, s.file]

end Sources

/-- What one source gives under the first of some names that it knows. -/
def given? (names : List String) (source : Source) : Option (String × Value) :=
  names.findSome? fun name => (last? name source).map fun v => (name, v)

/-- What the first source that knows any of some names gives. -/
def lookup? (names : List String) (sources : List Source) : Option (String × Value) :=
  sources.findSome? (given? names)

/-- The names of a setting. -/
def databaseNames : List String := ["dsn", "database_url"]

/-- All names of settings. -/
def knownNames : List String :=
  ["server_host", "server_port", "shutdown_timeout_seconds"] ++ databaseNames ++
    ["database_pool_size", "database_max_overflow", "migrate_db", "alembic_config", "log_level",
     "log_format"]

/-- An address after one of the schemes that leave the driver open. -/
def plainRest? (url : String) : Option (List Char) :=
  let chars := url.toList
  ["postgres://".toList, "postgresql://".toList].findSome? fun scheme =>
    if scheme.isPrefixOf chars then some (chars.drop scheme.length) else none

/-- The scheme with its driver. -/
def driverScheme : String := "postgresql+asyncpg://"

/-- An address with a driver where its scheme leaves the driver open. -/
def withDriver (url : String) : String :=
  match plainRest? url with
  | some rest => driverScheme ++ String.ofList rest
  | none => url

theorem plainRest?_driverScheme (rest : List Char) :
    plainRest? (driverScheme ++ String.ofList rest) = none := by
  have h : (driverScheme ++ String.ofList rest).toList =
      'p' :: 'o' :: 's' :: 't' :: 'g' :: 'r' :: 'e' :: 's' :: 'q' :: 'l' :: '+' :: 'a' ::
        ("syncpg://".toList ++ rest) := by
    simp [driverScheme]
  simp [plainRest?, h]

theorem withDriver_idempotent (url : String) : withDriver (withDriver url) = withDriver url := by
  unfold withDriver
  cases h : plainRest? url with
  | none => simp [h]
  | some rest => simp [plainRest?_driverScheme]

/-- The value of a setting with a default, or a complaint. -/
def field {α : Type} (sources : List Source) (name : String) (read : Value → Reading α)
    (default : α) : Except Complaint α :=
  match lookup? [name] sources with
  | none => .ok default
  | some (_, v) =>
    match read v with
    | .ok a => .ok a
    | .error p => .error ⟨name, p⟩

/-- The address of the database, or a complaint. -/
def databaseField (sources : List Source) : Except Complaint String :=
  match lookup? databaseNames sources with
  | none => .error ⟨"dsn", .missing⟩
  | some (name, v) =>
    match readText v with
    | .ok url => .ok (withDriver url)
    | .error p => .error ⟨name, p⟩

/-- The complaint of a setting, if there is one. -/
def complaint {α : Type} : Except Complaint α → List Complaint
  | .ok _ => []
  | .error c => [c]

/-- The names without repeats, in the order of their first occurrence. -/
def firstNames (names : List String) : List String :=
  names.foldl (fun seen n => if seen.contains n then seen else seen ++ [n]) []

/-- Names of a source that are no settings. An empty variable of the file is ignored. -/
def strangers (s : Sources) : List String :=
  let isStranger := fun name => !knownNames.contains name
  let inFile := (firstNames (s.file.map (·.1))).filter fun name =>
    isStranger name && (match last? name s.file with
      | some (.text t) => !t.isEmpty
      | _ => false)
  firstNames (inFile ++ (s.arguments.map (·.1)).filter isStranger)

/-- The settings of sources, or all complaints in the order of the settings. -/
def resolve (s : Sources) : Except (List Complaint) Settings :=
  let asked := s.inOrder
  let host := field asked "server_host" readText "0.0.0.0"
  let port := field asked "server_port" readInteger 8080
  let timeout := field asked "shutdown_timeout_seconds" readInteger 10
  let url := databaseField asked
  let poolSize := field asked "database_pool_size" readInteger 20
  let maxOverflow := field asked "database_max_overflow" readInteger 10
  let migrate := field asked "migrate_db" readSwitch false
  let config := field asked "alembic_config" readText "alembic.ini"
  let level := field asked "log_level" readText "INFO"
  let format := field asked "log_format" readText "json"
  let complaints := complaint host ++ complaint port ++ complaint timeout ++ complaint url ++
    complaint poolSize ++ complaint maxOverflow ++ complaint migrate ++ complaint config ++
    complaint level ++ complaint format ++ (strangers s).map fun n => ⟨n, .extraForbidden⟩
  match host, port, timeout, url, poolSize, maxOverflow, migrate, config, level, format,
      complaints with
  | .ok host, .ok port, .ok timeout, .ok url, .ok poolSize, .ok maxOverflow, .ok migrate,
      .ok config, .ok level, .ok format, [] =>
    .ok ⟨host, port, timeout, url, poolSize, maxOverflow, migrate, config, level, format⟩
  | _, _, _, _, _, _, _, _, _, _, _ => .error complaints

end Settings

end Discography
