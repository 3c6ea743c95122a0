import Discography.Page
import Discography.Store.Listing

/-!
# Databases and their statements

A database has a table of albums, has none yet, or cannot be opened. A statement on a database
fails for these reasons in this order: the database cannot be opened, there is no table, an integer
does not fit into 64 bits, the id of a new row is taken.

* Statements that read or replace rows tell by their answer whether a row had the id.
-/

set_option autoImplicit false

namespace Discography.Store

/-- The database behind the catalog. -/
inductive Database where
  | table (t : Table)
  | tableless
  | unopenable
  deriving DecidableEq

namespace Database

instance : Inhabited Database := ⟨.table .empty⟩

/-- The table of a database. -/
def table? : Database → Except Failure Table
  | .table t => .ok t
  | .tableless => .error .tableMissing
  | .unopenable => .error .databaseUnopenable

/-- The rows of a database, if it has a table. -/
def rows? : Database → Option (List Row)
  | .table t => some t.rows
  | _ => none

/-- Opening a connection. -/
def connect : Database → Except Failure Unit
  | .unopenable => .error .databaseUnopenable
  | _ => .ok ()

/-- A statement that puts a new row into the table. -/
def insertRow (d : Database) (r : Row) : Except Failure Database :=
  match d.table? with
  | .error f => .error f
  | .ok t =>
    if !fitsInt64 r.price then .error .integerTooLarge
    else if (t.find? r.id).isSome then .error .duplicateId
    else .ok (.table (t.put r))

/-- A statement that reads the row of an id. -/
def selectRow (d : Database) (id : AlbumId) : Except Failure (Option Row) :=
  match d.table? with
  | .error f => .error f
  | .ok t => .ok (t.find? id)

/-- A statement that reads a window of the listing. -/
def selectWindow (d : Database) (offset limit : Int) : Except Failure (List Row) :=
  match d.table? with
  | .error f => .error f
  | .ok t =>
    if fitsInt64 offset && fitsInt64 limit then .ok (t.window offset limit)
    else .error .integerTooLarge

/-- A statement that replaces the row of the same id, and whether there was one. -/
def updateRow (d : Database) (r : Row) : Except Failure (Bool × Database) :=
  match d.table? with
  | .error f => .error f
  | .ok t =>
    if !fitsInt64 r.price then .error .integerTooLarge
    else if (t.find? r.id).isSome then .ok (true, .table (t.put r))
    else .ok (false, d)

/-- A statement that deletes the row of an id, and whether there was one. -/
def deleteRow (d : Database) (id : AlbumId) : Except Failure (Bool × Database) :=
  match d.table? with
  | .error f => .error f
  | .ok t =>
    if (t.find? id).isSome then .ok (true, .table (t.erase id)) else .ok (false, d)

end Database

end Discography.Store
