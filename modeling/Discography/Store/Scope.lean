import Discography.Log.Event
import Discography.Store.Session

/-!
# Session scopes

A scope runs actions on one session and leaves it at the first failure. Whatever has not been
committed by then is forgotten. A failure of the database layer leaves the scope as a database error
and is reported once; every other failure leaves it as it is, without a report.

* `close_error` — a failure of the database layer is the only one that is converted and reported.
* `health` never fails: it tells whether the database answers, with at most one report.
-/

set_option autoImplicit false

namespace Discography.Store

open Discography.Log

/-- The logger of the database. -/
def databaseLogger : String := "album_catalog.infrastructure.database"

/-- The report on a failure of the database layer. -/
def failureEvent (f : Failure) : Event :=
  { level := .error, logger := databaseLogger, message := "database operation failed",
    extras := { error := some f.text, operation := some f.kindName } }

/-- How a failure leaves a scope, and what is reported. -/
def closeFailure (f : Failure) : Failure × List Event :=
  if f.isSql then (.database f.text f.kindName, [failureEvent f]) else (f, [])

/-- How an outcome leaves a scope, and what is reported. -/
def close {α : Type} : Except Failure α → Except Failure α × List Event
  | .ok a => (.ok a, [])
  | .error f => (.error (closeFailure f).1, (closeFailure f).2)

theorem close_error {α : Type} (f : Failure) :
    close (.error f : Except Failure α) =
      if f.isSql then (.error (.database f.text f.kindName), [failureEvent f])
      else (.error f, []) := by
  simp only [close, closeFailure]
  split <;> rfl

/-- An action inside a scope. -/
inductive Action where
  | add (album : Album)
  | flush
  | commit
  | rollback
  | connect
  | raise (failure : Failure)

namespace Session

/-- The outcome of an action, and the session after it. -/
def act (s : Session) : Action → Except Failure Unit × Session
  | .add a => s.add a
  | .flush => s.flush
  | .commit => s.commit
  | .rollback => (.ok (), s.rollback)
  | .connect => (s.connect, s)
  | .raise f => (.error f, s)

/-- The outcome of actions up to the first that fails, and the session after it. -/
def actAll (s : Session) : List Action → Except Failure Unit × Session
  | [] => (.ok (), s)
  | a :: as =>
    match s.act a with
    | (.error f, t) => (.error f, t)
    | (.ok (), t) => t.actAll as

end Session

/-- What a scope comes to: its outcome, what is reported, and the database after it. -/
structure Scoped (α : Type) where
  outcome : Except Failure α
  events : List Event
  stored : Database

namespace Database

/-- Actions in a scope of their own. -/
def scope (d : Database) (actions : List Action) : Scoped Unit :=
  let result := (Session.begin d).actAll actions
  ⟨(close result.1).1, (close result.1).2, result.2.stored⟩

/-- A storage call in a scope of its own. -/
def performScoped (d : Database) (c : Call) : Scoped c.Answer :=
  let result := d.perform c
  ⟨(close result.1).1, (close result.1).2, result.2⟩

end Database

/-- Whether a scope that comes to an outcome is healthy, and what is reported. A database error has
been reported where it arose. -/
def health (outcome : Except Failure Unit) : Bool × List Event :=
  match close outcome with
  | (.ok (), events) => (true, events)
  | (.error (.database _ _), events) => (false, events)
  | (.error f, events) =>
    (false, events ++
      [{ level := .error, logger := databaseLogger, message := "database health check failed",
         extras := { error := some f.text } }])

end Discography.Store
