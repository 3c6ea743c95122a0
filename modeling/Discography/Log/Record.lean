import Discography.Json.Printer
import Discography.Log.Event
import Discography.Log.Moment
import Discography.Log.Template

/-!
# Log records

A record holds what is known of an event when it is written: who reports it, how urgent it is, where
and when it was made, a message with its arguments, further fields, and the failure that is being
handled with those before it. It is written as one line of JSON or as text for people.

* `surfaced` — the fields of a record that are shown: those among six names that are not null.
-/

set_option autoImplicit false

namespace Discography.Log

open Discography.Json Discography.Text

/-! ## Traces -/

/-- A failure with the failures that led to it. -/
inductive Trace where
  | alone (failure : Failure)
  /-- A failure that an earlier one caused. -/
  | causedBy (earlier : Trace) (failure : Failure)
  /-- A failure while an earlier one was being handled. -/
  | during (earlier : Trace) (failure : Failure)
  deriving DecidableEq, Repr

/-- The name of the kind of a failure with the place where the kind is defined. -/
def qualifiedKind (f : Failure) : String :=
  match f with
  | .sql kind _ => "sqlalchemy.exc." ++ kind.name
  | .fault kind _ => kind.name
  | .http _ _ | .unreadable _ => "fastapi.exceptions." ++ f.kindName
  | f => "album_catalog.core.errors." ++ f.kindName

/-- The last line of the report on a failure. -/
def finalLine (f : Failure) : String :=
  if f.text.isEmpty then qualifiedKind f else qualifiedKind f ++ ": " ++ f.text

/-- What stands between a failure and the one that it caused. -/
def causeLink : String :=
  "\n\nThe above exception was the direct cause of the following exception:\n\n"

/-- What stands between a failure and one that arose while it was being handled. -/
def contextLink : String :=
  "\n\nDuring handling of the above exception, another exception occurred:\n\n"

/-- The report on a failure and those before it. -/
def Trace.text : Trace → String
  | .alone f => finalLine f
  | .causedBy earlier f => earlier.text ++ causeLink ++ finalLine f
  | .during earlier f => earlier.text ++ contextLink ++ finalLine f

/-- The failure that is being handled when a record is made. -/
inductive Handled where
  /-- No failure is reported. -/
  | unreported
  /-- A report was asked for while no failure was being handled. -/
  | nothing
  | trace (t : Trace)
  deriving DecidableEq, Repr

/-- The report on the failure that is being handled. -/
def Handled.text? : Handled → Option String
  | .unreported => none
  | .nothing => some "NoneType: None"
  | .trace t => some t.text

/-! ## Records -/

/-- What is known of an event when it is written. -/
structure Record where
  logger : Value
  /-- The number of the level, which decides whether the record is written. -/
  level : Int
  levelName : Value
  path : Value
  line : Value
  message : Value
  arguments : Arguments
  created : Moment
  thousandths : Int
  fields : List (String × Value)
  handled : Handled
  deriving Repr

namespace Record

/-- A record of a level and a moment. -/
def make (logger : String) (level : Int) (path : String) (line : Int) (message : Value)
    (arguments : List Value) (created : Moment) (handled : Handled) : Record where
  logger := .text logger
  level := level
  levelName := .text (Log.levelName level)
  path := .text path
  line := .integer line
  message := message
  arguments := match arguments with
    | [.object (m :: ms)] => .one (.object (m :: ms))
    | vs => .inTurn vs
  created := created
  thousandths := created.thousandths
  fields := []
  handled := handled

/-- A record with a field, which replaces the attribute of its name if there is one. -/
def given (r : Record) (field : String × Value) : Record :=
  match field.1 with
  | "name" => { r with logger := field.2 }
  | "levelname" => { r with levelName := field.2 }
  | "pathname" => { r with path := field.2 }
  | "lineno" => { r with line := field.2 }
  | "msg" => { r with message := field.2 }
  | "args" => { r with arguments := .one field.2 }
  | "created" => { r with created := .ofValue field.2 }
  | _ => { r with fields := r.fields ++ [field] }

/-- A record with fields. -/
def givenAll (r : Record) (fields : List (String × Value)) : Record := fields.foldl given r

/-- The record of an event at a place and a moment. -/
def ofEvent (e : Event) (path : String) (line : Int) (created : Moment) (handled : Handled) :
    Record :=
  (make e.logger e.level.number path line (.text e.message) [] created handled).givenAll
    (e.extras.fields.map fun f => (f.1, Value.ofText? f.2))

/-- The message of a record. It is a template only if there is something to fill it with. -/
def text (r : Record) : Except Failure String :=
  let template := shown r.message
  let filled : Except TemplateError String := match r.arguments with
    | .inTurn [] => .ok template
    | .inTurn vs => fill template (.inTurn vs)
    | .one v => if isSomething v then fill template (.one v) else .ok template
  match filled with
  | .ok s => .ok s
  | .error e => .error e.failure

/-- The fields of a record that are shown. -/
def surfaced (r : Record) : List (String × Value) :=
  extraNames.filterMap fun name =>
    match last? name r.fields with
    | none | some .null => none
    | some v => some (name, v)

/-- The members of a record's line. -/
def members (r : Record) (timestamp message : String) : List (String × Value) :=
  [("timestamp", .text timestamp), ("level", r.levelName), ("logger", r.logger),
   ("source", .text (shown r.path ++ ":" ++ shown r.line)), ("message", .text message)] ++
    r.surfaced ++ (r.handled.text?.map fun t => ("exception", .text t)).toList

/-- A record as one line of JSON. -/
def jsonLine (r : Record) : Except Failure String := do
  let stamp ← r.created.stamp
  let message ← r.text
  pure ((Value.object (r.members stamp.fullText message)).render .spacious)

/-- A text with a report on lines of its own. -/
def withReport (s : String) : Option String → String
  | none => s
  | some report =>
    if s.toList.getLast? = some '\n' then s ++ report else s ++ "\n" ++ report

/-- A record as its message alone, with the report on the failure. -/
def bareText (r : Record) : Except Failure String := do
  let message ← r.text
  pure (withReport message r.handled.text?)

/-- A record as text for people. -/
def plainText (r : Record) : Except Failure String := do
  let message ← r.text
  let moment ← r.created.dateTime
  pure (withReport (moment ++ "," ++ Moment.threeWide r.thousandths ++ " " ++ shown r.levelName ++
    " " ++ shown r.logger ++ " " ++ message) r.handled.text?)

end Record

end Discography.Log
