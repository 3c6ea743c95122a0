import Std.Time.DateTime.Timestamp
import Discography.Daemon.Lifespan
import Discography.Daemon.Server
import Discography.Json.Reader

/-!
# The command line

The service started as its settings say. Requests are read from standard input, one JSON object with
`method`, `path`, `query` and `body` a line, and each is answered by one line of JSON. What is logged
goes to standard error.
-/

set_option autoImplicit false

open Discography Discography.Calendar Discography.Daemon Discography.Http Discography.Json
  Discography.Log Discography.Migration

namespace Discography.CommandLine

/-- The variables that settings are read from, in both cases. -/
def variableNames : List String :=
  Settings.knownNames.flatMap fun name => [String.ofList (name.toList.map Char.toUpper), name]

/-- The variables of the environment that matter. -/
def environment : IO (List (String × String)) := do
  let found ← variableNames.mapM fun name => do
    let value ← IO.getEnv name
    return value.map fun v => (name, v)
  return found.filterMap id

/-- The text of a file, if there is one. -/
def readText? (path : String) : IO (Option String) := do
  try
    let text ← IO.FS.readFile path
    return some text
  catch _ => return none

/-- The microseconds after the beginning of 1970. -/
def now : IO Nat := do
  let t ← Std.Time.Timestamp.now
  return t.val.second.val.toNat * 1000000 + t.val.nano.val.toNat / 1000

/-- A number of microseconds after the beginning of 1970 as a stamp. -/
def stampOf (micros : Nat) : Stamp :=
  match WallTime.ofMicros? (micros + epochDay * dayMicros : Nat) with
  | some w => .utc w
  | none => default

/-- A random number of 128 bits. -/
def randomNumber : IO Nat := do
  let bytes ← IO.getRandomBytes 16
  return bytes.data.toList.foldl (fun n b => n * 256 + b.toNat) 0

/-- Entries written to standard error, each with its logger as its source. -/
def writeEntries (es : List Entry) : IO Unit := do
  let micros ← now
  let moment := Moment.binary (.ofRatio false micros 1000000)
  for e in es do
    let record := Record.ofEvent e.event e.event.logger 0 moment .unreported
    match e.form.write record with
    | .ok line => IO.eprintln line
    | .error f => IO.eprintln f.text

/-- Why a step failed, written to standard error. -/
def writeTrouble : Trouble → IO Unit
  | .settings complaints => complaints.forM fun c => IO.eprintln (c.name ++ ": " ++ c.problem.name)
  | .failure f => IO.eprintln (f.kindName ++ ": " ++ f.text)

/-- A text member of an object, empty if there is none. -/
def textMember (v : Value) (name : String) : String :=
  match v.get? name with
  | some (.text s) => s
  | _ => ""

/-- The request that an object describes. -/
def requestOf (v : Value) : Request :=
  ⟨textMember v "method", textMember v "path", textMember v "query", (textMember v "body").toUTF8⟩

/-- A response as an object. -/
def responseValue (r : Response) : Value :=
  .object ([("status", .integer r.status)] ++ (r.body.map fun b => ("body", b)).toList ++
    (r.location.map fun t => ("location", .text t)).toList ++
    (if r.allow.isEmpty then [] else [("allow", .array (r.allow.map .text))]))

/-- Requests served until the input ends. -/
partial def serveInput (input : IO.FS.Stream) (p : State) : IO State := do
  let line ← input.getLine
  if line.isEmpty then return p
  match read? bodyLimits line with
  | none => serveInput input p
  | some v =>
    let micros ← now
    let number ← randomNumber
    let supply : Api.Supply := { clock := fun _ => stampOf micros, ids := fun _ => .ofRandom number }
    let served := p.serve supply 0 0 (requestOf v)
    writeEntries served.entries
    IO.println ((responseValue served.response).render .compact)
    (← IO.getStdout).flush
    serveInput input served.state

/-- The process in the current directory, with the configuration of migrations that the settings
name, if it is there. -/
def prepare (sources : Settings.Sources) : IO State := do
  let directory ← IO.currentDir
  let workspace : Workspace := { directory := directory.toString }
  match Settings.resolve sources with
  | .error _ => return { workspace }
  | .ok a =>
    match ← readText? a.migrationConfig with
    | none => return { workspace }
    | some text =>
      let place := "/" ++ "/".intercalate (workspace.locate a.migrationConfig).dropLast
      let configurations := [(a.migrationConfig, Options.ofText place text)]
      return { workspace := { workspace with configurations } }

/-- The service from its launch to its shutdown. -/
def run : IO UInt32 := do
  let bindings ← environment
  let file ← readText? ".env"
  let sources := Settings.Sources.of [] bindings (file.getD "")
  let p ← prepare sources
  let launched := p.launch sources
  writeEntries launched.entries
  match launched.outcome with
  | .error t =>
    writeTrouble t
    return 1
  | .ok _ =>
    let started := launched.state.start sources
    writeEntries started.entries
    match started.outcome with
    | .error t =>
      writeTrouble t
      return 3
    | .ok _ =>
      let last ← serveInput (← IO.getStdin) started.state
      writeEntries (last.stop .finished).2
      return 0

end Discography.CommandLine

/-- The service from its launch to its shutdown. -/
def main : IO UInt32 := Discography.CommandLine.run
