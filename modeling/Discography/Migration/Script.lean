import Discography.Connect.Engine
import Discography.Migration.Revision

/-!
# Scripts

The history of the schema as statements in the words of a dialect, for a database that is changed by
hand.
-/

set_option autoImplicit false

namespace Discography.Migration

open Discography.Connect Discography.Text

/-- How a dialect writes schemas. -/
structure Writing where
  /-- Whether changes of the schema are part of a transaction. -/
  isTransactional : Bool
  identifier : String
  stamp : String
  /-- What follows the record of a revision. -/
  afterRecord : String
  deriving DecidableEq, Repr

/-- The writing of files. -/
def fileWriting : Writing := ⟨false, "CHAR(32)", "DATETIME", " RETURNING version_num"⟩

/-- The writing of servers. -/
def serverWriting : Writing :=
  ⟨true, "UUID", "TIMESTAMP WITH TIME ZONE", " RETURNING alembic_version.version_num"⟩

/-- The writing of dialects that return nothing from an insertion. -/
def silentWriting : Writing := { fileWriting with afterRecord := "" }

/-- The writing of the dialect of an address. -/
def writingFor (u : Url) : Except Failure Writing :=
  match knownSupport.lookup u.name with
  | none => .error (if 1 < u.name.toList.count '+' then tooManyParts else unknownDialect u.name)
  | some _ =>
    .ok (if u.dialect = "postgresql" then serverWriting
      else if u.dialect = "sqlite" then fileWriting else silentWriting)

/-- The word for the type of a column. -/
def ColumnType.word (w : Writing) : ColumnType → String
  | .identifier => w.identifier
  | .text limit => "VARCHAR(" ++ decimal limit ++ ")"
  | .bigInteger => "BIGINT"
  | .stamp => w.stamp

/-- The definition of a column. -/
def Column.definition (w : Writing) (c : Column) : String :=
  c.name ++ " " ++ c.type.word w ++ " NOT NULL"

/-- The names of the columns of a table's key. -/
def TableSchema.key (t : TableSchema) : String :=
  ", ".intercalate ((t.columns.filter (·.isKey)).map (·.name))

/-- The statement that creates a table; its key may have a name. -/
def createStatement (w : Writing) (t : TableSchema) (keyName : Option String) : String :=
  let name := match keyName with
    | some name => "CONSTRAINT " ++ name ++ " "
    | none => ""
  "CREATE TABLE " ++ t.name ++ " ( " ++
    ", ".intercalate (t.columns.map (Column.definition w) ++
      [name ++ "PRIMARY KEY (" ++ t.key ++ ")"]) ++ " )"

/-- An operation as a statement. -/
def Operation.statement (w : Writing) : Operation → String
  | .createTable t => createStatement w t none
  | .createIndex i =>
    "CREATE INDEX " ++ i.name ++ " ON " ++ i.table ++ " (" ++ ", ".intercalate i.columns ++ ")"
  | .dropIndex name => "DROP INDEX " ++ name
  | .dropTable name => "DROP TABLE " ++ name

/-- The statements of a revision. The first one is preceded by a remark. -/
def Revision.statements (w : Writing) (r : Revision) : List String :=
  let remark := "-- Running upgrade -> " ++ r.name ++ " "
  (match r.forward.map (Operation.statement w) with
    | [] => []
    | s :: ss => (remark ++ s) :: ss) ++
    ["INSERT INTO " ++ versionTable.name ++ " (version_num) VALUES (\x27" ++ r.name ++ "\x27)" ++
      w.afterRecord]

/-- The statements that bring an empty database to the latest revision. -/
def script (w : Writing) : List String :=
  let body := createStatement w versionTable (some (versionTable.name ++ "_pkc")) ::
    history.flatMap (Revision.statements w)
  if w.isTransactional then "BEGIN" :: body ++ ["COMMIT"] else body

end Discography.Migration
