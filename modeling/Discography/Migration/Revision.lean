import Discography.Migration.Schema

/-!
# Revisions

A revision is a named step of the schema's history, with the operations that apply it and those that
take it back. A data file records the latest revision that was applied to it, so that only later ones
are run.

* `upgrade_fresh` — an upgraded fresh file has the tables and indexes of the catalog.
* `upgrade_upgraded` — upgrading again changes nothing.
-/

set_option autoImplicit false

namespace Discography.Migration

open Discography.Store

/-- A step of the history of the schema. -/
structure Revision where
  name : String
  forward : List Operation
  backward : List Operation
  deriving DecidableEq, Repr

/-- The revision that creates the table of albums. -/
def createAlbums : Revision where
  name := "001_create_album_table"
  forward :=
    [.createTable ⟨"album",
      [{ name := "id", type := .identifier, isKey := true },
       { name := "title", type := .text 255 }, { name := "artist", type := .text 255 },
       { name := "price", type := .bigInteger }, { name := "created_at", type := .stamp },
       { name := "updated_at", type := .stamp }]⟩,
     .createIndex ⟨"album_title_index", "album", ["title"]⟩]
  backward := [.dropIndex "album_title_index", .dropTable "album"]

/-- All revisions, the oldest first. -/
def history : List Revision := [createAlbums]

/-- The table that records the applied revisions. -/
def versionTable : TableSchema :=
  ⟨"alembic_version", [{ name := "version_num", type := .text 32, isKey := true }]⟩

namespace DataFile

/-- A file with a table for applied revisions. -/
def withVersions (f : DataFile) : DataFile :=
  if (f.schema.table? versionTable.name).isSome then f
  else { f with schema := { f.schema with tables := f.schema.tables ++ [versionTable] } }

/-- The revisions that are still to be applied. -/
def pending (f : DataFile) : List Revision :=
  match f.applied with
  | [] => history
  | latest :: _ => (history.dropWhile fun r => r.name != latest).drop 1

/-- A file after revisions. -/
def advance (f : DataFile) : List Revision → Except Failure DataFile
  | [] => .ok f
  | r :: rs =>
    match f.performAll r.forward with
    | .error e => .error e
    | .ok g => { g with applied := [r.name] }.advance rs

/-- A file with every revision applied. -/
def upgrade (f : DataFile) : Except Failure DataFile := f.withVersions.advance f.pending

/-- The revisions that can be taken back, the latest first. -/
def standing (f : DataFile) : List Revision :=
  match f.applied with
  | [] => []
  | latest :: _ => history.reverse.dropWhile fun r => r.name != latest

/-- A file after revisions are taken back. -/
def retreat (f : DataFile) : List Revision → Except Failure DataFile
  | [] => .ok f
  | r :: rs =>
    match f.performAll r.backward with
    | .error e => .error e
    | .ok g => { g with applied := (rs.take 1).map Revision.name }.retreat rs

/-- A file with every revision taken back. -/
def downgrade (f : DataFile) : Except Failure DataFile := f.withVersions.retreat f.standing

/-- A file that a fresh one becomes when it is upgraded. -/
def upgraded : DataFile where
  schema := { catalog with tables := versionTable :: catalog.tables }
  applied := [createAlbums.name]

theorem upgrade_fresh : upgrade {} = .ok upgraded := by rfl

/-- Whether a file is upgraded, whatever its albums. -/
def IsUpgraded (f : DataFile) : Prop :=
  f.schema = upgraded.schema ∧ f.applied = upgraded.applied

theorem upgrade_upgraded {f : DataFile} (h : f.IsUpgraded) : f.upgrade = .ok f := by
  have hp : f.pending = [] := by
    unfold pending
    rw [h.2]
    rfl
  have hv : f.withVersions = f := by
    unfold withVersions
    rw [h.1]
    exact if_pos (by decide +kernel)
  simp [upgrade, hp, hv, advance]

end DataFile

end Discography.Migration
