import Discography.Store.Database

/-!
# Schemas and data files

A schema has tables and indexes, and is changed by operations. A data file holds the rows of a
schema: the albums, and the name of the latest revision that was applied to it.

* `catalog` — the schema that the rows of albums are declared with.
-/

set_option autoImplicit false

namespace Discography.Migration

open Discography.Store

/-- The type of a column. No column holds nulls. -/
inductive ColumnType where
  | identifier
  | text (limit : Nat)
  | bigInteger
  | stamp
  deriving DecidableEq, Repr

/-- A column of a table. -/
structure Column where
  name : String
  type : ColumnType
  isKey : Bool := false
  deriving DecidableEq, Repr

/-- The columns of a table. -/
structure TableSchema where
  name : String
  columns : List Column
  deriving DecidableEq, Repr

/-- The columns of an index on a table. -/
structure IndexSchema where
  name : String
  table : String
  columns : List String
  deriving DecidableEq, Repr

/-- Tables and indexes, in the order in which they were made. -/
structure Schema where
  tables : List TableSchema := []
  indexes : List IndexSchema := []
  deriving DecidableEq, Repr

namespace Schema

/-- The table of a name. -/
def table? (s : Schema) (name : String) : Option TableSchema :=
  s.tables.find? fun t => t.name == name

/-- The index of a name. -/
def index? (s : Schema) (name : String) : Option IndexSchema :=
  s.indexes.find? fun i => i.name == name

/-- The indexes on a table. -/
def indexesOn (s : Schema) (table : String) : List IndexSchema :=
  s.indexes.filter fun i => i.table == table

end Schema

/-- The name of the table of albums. -/
def albumsName : String := "album"

/-- The schema that the rows of albums are declared with. -/
def catalog : Schema where
  tables := [⟨albumsName,
    [{ name := "id", type := .identifier, isKey := true }, { name := "title", type := .text 255 },
     { name := "artist", type := .text 255 }, { name := "price", type := .bigInteger },
     { name := "created_at", type := .stamp }, { name := "updated_at", type := .stamp }]⟩]
  indexes := [⟨"album_title_index", albumsName, ["title"]⟩]

/-! ## Operations -/

/-- A change of a schema. -/
inductive Operation where
  | createTable (t : TableSchema)
  | createIndex (i : IndexSchema)
  | dropIndex (name : String)
  | dropTable (name : String)
  deriving DecidableEq, Repr

/-- A change that a database refuses. -/
def refused (reason : String) : Failure :=
  .quoting .operational "sqlite3.OperationalError" reason

/-- A schema after a change. -/
def Operation.apply (s : Schema) : Operation → Except Failure Schema
  | .createTable t =>
    if (s.table? t.name).isSome then .error (refused ("table " ++ t.name ++ " already exists"))
    else .ok { s with tables := s.tables ++ [t] }
  | .createIndex i =>
    if (s.index? i.name).isSome then .error (refused ("index " ++ i.name ++ " already exists"))
    else .ok { s with indexes := s.indexes ++ [i] }
  | .dropIndex name =>
    if (s.index? name).isSome then
      .ok { s with indexes := s.indexes.filter fun i => i.name != name }
    else .error (refused ("no such index: " ++ name))
  | .dropTable name =>
    if (s.table? name).isSome then
      .ok { tables := s.tables.filter fun t => t.name != name
            indexes := s.indexes.filter fun i => i.table != name }
    else .error (refused ("no such table: " ++ name))

/-! ## Data files -/

/-- A database in a file: its schema, the latest revision that was applied, if there is one, and the
rows of the albums. -/
structure DataFile where
  schema : Schema := {}
  applied : List String := []
  albums : Table := .empty
  deriving DecidableEq

namespace DataFile

/-- The database of the catalog in a file. -/
def database (f : DataFile) : Database :=
  if (f.schema.table? albumsName).isSome then .table f.albums else .tableless

/-- A file with the albums of a database. -/
def withDatabase (f : DataFile) : Database → DataFile
  | .table t => { f with albums := t }
  | _ => f

/-- A file after a change of its schema. A table of albums that is dropped takes its rows with it. -/
def perform (f : DataFile) (o : Operation) : Except Failure DataFile :=
  match o.apply f.schema with
  | .error e => .error e
  | .ok schema =>
    .ok { f with
      schema := schema
      albums := if (schema.table? albumsName).isSome then f.albums else .empty }

/-- A file after changes of its schema. -/
def performAll (f : DataFile) : List Operation → Except Failure DataFile
  | [] => .ok f
  | o :: os =>
    match f.perform o with
    | .error e => .error e
    | .ok g => g.performAll os

end DataFile

end Discography.Migration
