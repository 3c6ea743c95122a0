import Discography.Text.Quoted

/-!
# Failures

Why an operation failed. The errors of the catalog have a code, a category, a severity and an HTTP
status, and a message that is safe to show; errors of the database and all other faults have a kind
and a text of their own. Two kinds belong to the web framework, which answers them by itself or with
a handler that it is given.
-/

set_option autoImplicit false

namespace Discography

open Discography.Text

/-- How grave an error of the catalog is. -/
inductive Severity where
  | info
  | warning
  | error
  | critical
  deriving DecidableEq, Repr

/-- What an error of the catalog is about. -/
inductive Category where
  | malformedRequest
  | validation
  | resourceNotFound
  | database
  | internal
  deriving DecidableEq, Repr

namespace Severity

/-- All severities with their names. -/
def names : List (String × Severity) :=
  [("info", .info), ("warning", .warning), ("error", .error), ("critical", .critical)]

/-- The name of a severity. -/
def name : Severity → String
  | .info => "info"
  | .warning => "warning"
  | .error => "error"
  | .critical => "critical"

end Severity

namespace Category

/-- All categories with their names. -/
def names : List (String × Category) :=
  [("malformed_request", .malformedRequest), ("validation", .validation),
   ("resource_not_found", .resourceNotFound), ("database", .database), ("internal", .internal)]

/-- The name of a category. -/
def name : Category → String
  | .malformedRequest => "malformed_request"
  | .validation => "validation"
  | .resourceNotFound => "resource_not_found"
  | .database => "database"
  | .internal => "internal"

end Category

/-- Fields of a request that failed validation, each with what is wrong with it. -/
abbrev Problems := List (String × String)

/-- The kinds of database errors. -/
inductive SqlKind where
  | operational
  | integrity
  | programming
  | interface
  | data
  | invalidRequest
  | argument
  | noResultFound
  | timeout
  | pendingRollback
  | noSuchModule
  /-- Any other kind, by its name. -/
  | other (kindName : String)
  deriving DecidableEq, Repr

namespace SqlKind

/-- The name of a kind of database error. -/
def name : SqlKind → String
  | .operational => "OperationalError"
  | .integrity => "IntegrityError"
  | .programming => "ProgrammingError"
  | .interface => "InterfaceError"
  | .data => "DataError"
  | .invalidRequest => "InvalidRequestError"
  | .argument => "ArgumentError"
  | .noResultFound => "NoResultFound"
  | .timeout => "TimeoutError"
  | .pendingRollback => "PendingRollbackError"
  | .noSuchModule => "NoSuchModuleError"
  | .other kindName => kindName

/-- Whether errors of this kind come from the driver and quote what it said. -/
def quotesDriver : SqlKind → Bool
  | .operational | .integrity | .programming | .interface | .data => true
  | _ => false

end SqlKind

/-- The kinds of faults that are neither errors of the catalog nor of the database. -/
inductive FaultKind where
  | exception
  | runtime
  | value
  | type
  | key
  | attribute
  | overflow
  | os
  | connection
  | timeout
  | moduleNotFound
  | validation
  | command
  /-- Any other kind, by its name. -/
  | other (kindName : String)
  deriving DecidableEq, Repr

/-- The name of a kind of fault. -/
def FaultKind.name : FaultKind → String
  | .exception => "Exception"
  | .runtime => "RuntimeError"
  | .value => "ValueError"
  | .type => "TypeError"
  | .key => "KeyError"
  | .attribute => "AttributeError"
  | .overflow => "OverflowError"
  | .os => "OSError"
  | .connection => "ConnectionError"
  | .timeout => "TimeoutError"
  | .moduleNotFound => "ModuleNotFoundError"
  | .validation => "ValidationError"
  | .command => "CommandError"
  | .other kindName => kindName

/-- Why an operation failed. -/
inductive Failure where
  /-- No album has the id, or no album is on the page. -/
  | notFound
  /-- A body, path or query that cannot be read. -/
  | malformed (message : String)
  /-- A request whose fields are not acceptable. -/
  | invalid (problems : Problems)
  /-- A failure while serving a request, with what was being done. -/
  | internal (operation : String)
  /-- A failure of the database, with the operation that failed and the driver's words. -/
  | database (detail operation : String)
  /-- An error of the catalog with a code and a status of its own. -/
  | custom (message code : String) (category : Category) (severity : Severity) (status : Int)
  /-- A response that the framework makes up, given by its status and a detail. -/
  | http (status : Int) (detail : String)
  /-- Typed parameters that cannot be read. -/
  | unreadable (text : String)
  /-- An error of the database layer. -/
  | sql (kind : SqlKind) (text : String)
  /-- Any other fault. -/
  | fault (kind : FaultKind) (message : String)
  deriving DecidableEq, Repr

namespace Failure

/-- The name of the kind of a failure. -/
def kindName : Failure → String
  | .notFound => "AlbumNotFoundError"
  | .malformed _ => "MalformedRequestError"
  | .invalid _ => "InvalidRequestError"
  | .internal _ => "InternalError"
  | .database _ _ => "DatabaseError"
  | .custom .. => "CatalogError"
  | .http _ _ => "HTTPException"
  | .unreadable _ => "RequestValidationError"
  | .sql kind _ => kind.name
  | .fault kind _ => kind.name

/-- The message that an internal error shows. -/
def internalMessage : String := "internal error"

/-- What an error of the catalog says to the client. -/
structure Terms where
  message : String
  code : String
  category : Category
  severity : Severity
  status : Int
  deriving DecidableEq, Repr

/-- The terms of an error of the catalog; other failures have none. -/
def terms? : Failure → Option Terms
  | .notFound => some ⟨"album not found", "ALBUM_NOT_FOUND", .resourceNotFound, .info, 404⟩
  | .malformed message => some ⟨message, "MALFORMED_REQUEST", .malformedRequest, .warning, 400⟩
  | .invalid _ => some ⟨"invalid request body", "INVALID_REQUEST", .validation, .warning, 400⟩
  | .internal _ => some ⟨internalMessage, "INTERNAL_ERROR", .internal, .critical, 500⟩
  | .database _ _ => some ⟨internalMessage, "DATABASE_ERROR", .database, .critical, 500⟩
  | .custom message code category severity status =>
    some ⟨message, code, category, severity, status⟩
  | .http _ _ | .unreadable _ | .sql _ _ | .fault _ _ => none

/-- The operation that an internal error names. -/
def operation? : Failure → Option String
  | .internal operation | .database _ operation => some operation
  | _ => none

/-- Whether a failure is an internal error of the catalog. -/
def isInternal : Failure → Bool
  | .internal _ | .database _ _ => true
  | _ => false

/-- Whether a failure comes from the database layer. -/
def isSql : Failure → Bool
  | .sql _ _ => true
  | _ => false

/-- The text of a failure. A missing key is quoted. -/
def text : Failure → String
  | .database detail operation => "Database " ++ operation ++ " failed: " ++ detail
  | .sql _ text => text
  | .fault .key message => quoted message
  | .fault _ message => message
  | .notFound => "album not found"
  | .malformed message => message
  | .invalid _ => "invalid request body"
  | .internal _ => internalMessage
  | .custom message .. => message
  | .http status detail => signedDecimal status ++ ": " ++ detail
  | .unreadable text => text

/-! ## Causes -/

/-- An error that quotes what the driver said. -/
def quoting (kind : SqlKind) (driverKind message : String) : Failure :=
  .sql kind ("(" ++ driverKind ++ ") " ++ message)

/-- A moment whose UTC date is outside the calendar. -/
def dateOutOfRange : Failure := .fault .overflow "date value out of range"

/-- An integer that no 64-bit column or parameter holds. -/
def integerTooLarge : Failure := .fault .overflow "Python int too large to convert to SQLite INTEGER"

/-- A numeral with more digits than are converted. -/
def tooManyDigits (count : Nat) : Failure :=
  .fault .value ("Exceeds the limit (4300 digits) for integer string conversion: value has " ++
    decimal count ++ " digits; use sys.set_int_max_str_digits() to increase the limit")

/-- A request that arrives while no database is open. -/
def databaseMissing : Failure := .fault .runtime "Database not initialized"

/-- A database that has no table of albums. -/
def tableMissing : Failure :=
  quoting .operational "sqlite3.OperationalError" "no such table: album"

/-- A database that cannot be opened. -/
def databaseUnopenable : Failure :=
  quoting .operational "sqlite3.OperationalError" "unable to open database file"

/-- A second album with an id that is taken. -/
def duplicateId : Failure :=
  quoting .integrity "sqlite3.IntegrityError" "UNIQUE constraint failed: album.id"

/-- A failure that a session spoiled by an earlier one answers everything with. The text of what
the driver said goes on for further lines, any other text is followed by a pointer to help. -/
def pendingRollback (cause : Failure) : Failure :=
  let help := " (Background on this error at: " ++ "https" ++ "://" ++ "sqlalche.me/e/20/7s2a)"
  .sql .pendingRollback ("This Session's transaction has been rolled back due to a previous " ++
    "exception during flush. To begin a new transaction with this Session, first issue " ++
    "Session.rollback(). Original exception was: " ++ cause.text ++
    (if cause.isSql then "" else help))

end Failure

/-- An outcome that has a value is a success. -/
theorem ok_of_toOption {ε α : Type} {x : Except ε α} {a : α} (h : x.toOption = some a) :
    x = .ok a := by
  cases x with
  | ok b =>
    cases h
    rfl
  | error e => cases h

/-- The first line of a text. -/
def firstLine (s : String) : String := String.ofList (s.toList.takeWhile (· != '\n'))

end Discography
