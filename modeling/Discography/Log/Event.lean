import Discography.Failure

/-!
# Events

What the catalog reports while it works: a level, the logger that speaks, a message, six fields
that may be there, and the kind of the failure that is being handled, if any.

* `errorCount_append` — the errors among events are counted one by one.
-/

set_option autoImplicit false

namespace Discography.Log

open Discography.Text

/-- How urgent an event is. -/
inductive Level where
  | debug
  | info
  | warning
  | error
  | critical
  deriving DecidableEq, Repr

namespace Level

/-- The number of a level; a greater one is more urgent. -/
def number : Level → Int
  | .debug => 10
  | .info => 20
  | .warning => 30
  | .error => 40
  | .critical => 50

/-- The name of a level. -/
def name : Level → String
  | .debug => "DEBUG"
  | .info => "INFO"
  | .warning => "WARNING"
  | .error => "ERROR"
  | .critical => "CRITICAL"

/-- All levels, the least urgent first. -/
def all : List Level := [.debug, .info, .warning, .error, .critical]

end Level

/-- The name of the number of a level; numbers between the levels are named as such. -/
def levelName (number : Int) : String :=
  match Level.all.find? fun level => level.number == number with
  | some level => level.name
  | none => if number = 0 then "NOTSET" else "Level " ++ signedDecimal number

/-- The words for levels, with the numbers that they stand for. -/
def levelWords : List (String × Int) :=
  [("CRITICAL", 50), ("FATAL", 50), ("ERROR", 40), ("WARN", 30), ("WARNING", 30), ("INFO", 20),
   ("DEBUG", 10), ("NOTSET", 0)]

/-- The fields that an event may have besides its message. -/
structure Extras where
  error : Option String := none
  errorCode : Option String := none
  albumId : Option String := none
  path : Option String := none
  method : Option String := none
  operation : Option String := none
  deriving DecidableEq, Repr, Inhabited

/-- The names of the fields, in the order in which they are shown. -/
def extraNames : List String :=
  ["error", "error_code", "album_id", "path", "method", "operation"]

namespace Extras

/-- The fields with their names, in the order in which they are shown. -/
def fields (x : Extras) : List (String × Option String) :=
  [("error", x.error), ("error_code", x.errorCode), ("album_id", x.albumId), ("path", x.path),
   ("method", x.method), ("operation", x.operation)]

theorem fields_names (x : Extras) : x.fields.map (·.1) = extraNames := rfl

end Extras

/-- What the catalog reports at one moment. -/
structure Event where
  level : Level
  logger : String
  message : String
  extras : Extras := {}
  /-- The kind of the failure that is being handled. -/
  failure : Option String := none
  deriving DecidableEq, Repr

/-- The number of errors among events. -/
def errorCount (es : List Event) : Nat := es.countP (·.level == .error)

theorem errorCount_append (a b : List Event) :
    errorCount (a ++ b) = errorCount a + errorCount b := List.countP_append

end Discography.Log
