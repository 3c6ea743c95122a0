import Discography.Store.Call
import Discography.Store.Database

/-!
# Sessions

A session works on a copy of the stored database until it commits. Albums are added first and
written by the next flush, all of them or none. A failed flush spoils the session: it serves nothing
more until it is rolled back. A statement that fails by itself spoils nothing.

* `perform` answers a storage call on a session; `Database.perform` does so on a session of its own.
-/

set_option autoImplicit false

namespace Discography.Store

/-- A session on a database. -/
structure Session where
  /-- What other sessions see. -/
  stored : Database
  /-- What the statements of this session see. -/
  working : Database
  /-- Rows that are added and not written yet, in the order of their addition. -/
  pending : List Row
  /-- The failure of a flush since the last rollback. -/
  broken : Option Failure

namespace Session

/-- A new session. -/
def begin (d : Database) : Session := ⟨d, d, [], none⟩

/-- Adding an album, which is written by the next flush. -/
def add (a : Album) (s : Session) : Except Failure Unit × Session :=
  match Row.ofAlbum? a with
  | none => (.error .dateOutOfRange, s)
  | some r => (.ok (), { s with pending := s.pending ++ [r] })

/-- The database with rows inserted in turn, or the failure of the first that cannot be. -/
def insertAll (d : Database) : List Row → Except Failure Database
  | [] => .ok d
  | r :: rs =>
    match d.insertRow r with
    | .error f => .error f
    | .ok e => insertAll e rs

/-- Writing the pending rows. -/
def flush (s : Session) : Except Failure Unit × Session :=
  if s.pending.isEmpty then (.ok (), s)
  else
    match s.broken with
    | some f => (.error (.pendingRollback f), s)
    | none =>
      match insertAll s.working s.pending with
      | .ok d => (.ok (), { s with working := d, pending := [] })
      | .error f => (.error f, ⟨s.stored, s.stored, [], some f⟩)

/-- Storing what the session has done, after writing the pending rows. -/
def commit (s : Session) : Except Failure Unit × Session :=
  match s.broken with
  | some f => (.error (.pendingRollback f), s)
  | none =>
    match s.flush with
    | (.ok (), t) => (.ok (), { t with stored := t.working })
    | (.error f, t) => (.error f, t)

/-- Forgetting what the session has done since the last commit. -/
def rollback (s : Session) : Session := begin s.stored

/-- Opening the connection of the session. -/
def connect (s : Session) : Except Failure Unit :=
  match s.broken with
  | some f => .error (.pendingRollback f)
  | none => s.working.connect

/-- A statement on the database that the session sees. -/
def statement {α : Type} (run : Database → Except Failure α) (s : Session) : Except Failure α :=
  match s.broken with
  | some f => .error (.pendingRollback f)
  | none => run s.working

/-- Committing a statement that found its row, and rolling back one that did not. -/
def settle (s : Session) : Except Failure (Bool × Database) → Except Failure Unit × Session
  | .error f => (.error f, s)
  | .ok (false, _) => (.error .notFound, s.rollback)
  | .ok (true, d) => { s with working := d }.commit

/-- The answer to a storage call, and the session after it. -/
def perform (s : Session) : (c : Call) → Except Failure c.Answer × Session
  | .insert a =>
    match s.add a with
    | (.error f, t) => (.error f, t)
    | (.ok (), t) => t.commit
  | .findAll offset limit =>
    match s.statement (·.selectWindow offset limit) with
    | .error f => (.error f, s)
    | .ok [] => (.error .notFound, s)
    | .ok rows => (.ok (some (rows.map Row.toAlbum)), s)
  | .findOne id =>
    match s.statement (·.selectRow id) with
    | .error f => (.error f, s)
    | .ok none => (.error .notFound, s)
    | .ok (some r) => (.ok (some r.toAlbum), s)
  | .update a =>
    match Row.ofAlbum? a with
    | none => (.error .dateOutOfRange, s)
    | some r => s.settle (s.statement (·.updateRow r))
  | .remove id => s.settle (s.statement (·.deleteRow id))

end Session

/-- The answer to a storage call in a session of its own, and the database after it. -/
def Database.perform (d : Database) (c : Call) : Except Failure c.Answer × Database :=
  let result := (Session.begin d).perform c
  (result.1, result.2.stored)

end Discography.Store
