import Discography.Store.Session

/-!
# Storage calls on a table

What each storage call comes to when it is a unit of work of its own on a database with a table:
its answer and the table that is stored afterwards.

* `perform_insert`, `perform_findAll`, `perform_findOne`, `perform_update`, `perform_remove` — one
  equation for each call.
* `perform_insert_new`, `perform_findOne_some`, `perform_update_some`, `perform_remove_some` — the
  calls that succeed; their companions end in a failure and leave the table as it is.
-/

set_option autoImplicit false

namespace Discography.Store

namespace Row

/-- A row has the fields of its album, and the UTC wall times of its stamps. -/
theorem ofAlbum?_eq_some_iff {a : Album} {r : Row} :
    ofAlbum? a = some r ↔ r.id = a.id ∧ r.title = a.title ∧ r.artist = a.artist ∧
      r.price = a.price ∧ a.created.toUtc? = some r.created ∧ a.updated.toUtc? = some r.updated := by
  unfold ofAlbum?
  constructor
  · intro h
    split at h
    · rename_i created updated hc hu
      cases h
      exact ⟨rfl, rfl, rfl, rfl, hc, hu⟩
    · cases h
  · rintro ⟨hid, htitle, hartist, hprice, hc, hu⟩
    rw [hc, hu, ← hid, ← htitle, ← hartist, ← hprice]

theorem price_of_ofAlbum? {a : Album} {r : Row} (h : ofAlbum? a = some r) : r.price = a.price :=
  (ofAlbum?_eq_some_iff.1 h).2.2.2.1

end Row

/-- No two rows of a table have one id. -/
theorem Table.rows_pairwise_ne (t : Table) : t.rows.Pairwise fun a b => a.id ≠ b.id := by
  refine t.ordered.imp ?_
  intro a b hlt he
  rw [he] at hlt
  exact Nat.lt_irrefl _ hlt

/-- The row of a changed album keeps the id by which the album was found. -/
theorem Table.id_of_changed {t : Table} {u : AlbumId} {d : Draft} {now : Calendar.Stamp}
    {old row : Row} (hfound : t.find? u = some old)
    (h : Row.ofAlbum? (old.toAlbum.withDraft d now) = some row) : row.id = u :=
  (Row.id_of_ofAlbum? h).trans (Table.id_of_find? hfound)

namespace Database

section Equations

variable (t : Table)

theorem perform_insert (a : Album) :
    (table t).perform (.insert a) =
      match Row.ofAlbum? a with
      | none => (.error .dateOutOfRange, table t)
      | some r =>
        if !fitsInt64 r.price then (.error .integerTooLarge, table t)
        else if (t.find? r.id).isSome then (.error .duplicateId, table t)
        else (.ok (), table (t.put r)) := by
  cases h : Row.ofAlbum? a with
  | none => simp only [perform, Session.perform, Session.add, Session.begin, h]
  | some r =>
    simp only [perform, Session.perform, Session.add, Session.begin, Session.commit, Session.flush,
      Session.insertAll, insertRow, table?, h, List.nil_append, List.isEmpty_cons]
    by_cases hp : fitsInt64 r.price = true
    · by_cases hi : (t.find? r.id).isSome = true
      · simp [hp, hi]
      · simp [hp, hi]
    · simp [hp]

theorem perform_findAll (offset limit : Int) :
    (table t).perform (.findAll offset limit) =
      (if fitsInt64 offset && fitsInt64 limit then
        match t.window offset limit with
        | [] => .error .notFound
        | rows => .ok (some (rows.map Row.toAlbum))
      else .error .integerTooLarge, table t) := by
  simp only [perform, Session.perform, Session.statement, Session.begin, selectWindow, table?]
  by_cases h : (fitsInt64 offset && fitsInt64 limit) = true
  · simp only [h, if_true]
    cases t.window offset limit <;> rfl
  · simp only [h, if_false, Bool.false_eq_true]

theorem perform_findOne (id : AlbumId) :
    (table t).perform (.findOne id) =
      (match t.find? id with
        | none => .error .notFound
        | some r => .ok (some r.toAlbum), table t) := by
  simp only [perform, Session.perform, Session.statement, Session.begin, selectRow, table?]
  cases t.find? id <;> rfl

theorem perform_update (a : Album) :
    (table t).perform (.update a) =
      match Row.ofAlbum? a with
      | none => (.error .dateOutOfRange, table t)
      | some r =>
        if !fitsInt64 r.price then (.error .integerTooLarge, table t)
        else if (t.find? r.id).isSome then (.ok (), table (t.put r))
        else (.error .notFound, table t) := by
  cases h : Row.ofAlbum? a with
  | none => simp [perform, Session.perform, Session.begin, h]
  | some r =>
    simp only [perform, Session.perform, Session.statement, Session.begin, updateRow, table?, h]
    split
    · rfl
    · split <;> rfl

theorem perform_remove (id : AlbumId) :
    (table t).perform (.remove id) =
      if (t.find? id).isSome then (.ok (), table (t.erase id)) else (.error .notFound, table t) := by
  simp only [perform, Session.perform, Session.statement, Session.begin, deleteRow, table?]
  split <;> rfl

end Equations

/-! ## Answers by what is stored -/

section Answers

variable {t : Table} {u : AlbumId} {a : Album} {row : Row}

theorem perform_findOne_none (h : t.find? u = none) :
    (table t).perform (.findOne u) = (.error .notFound, table t) := by
  rw [perform_findOne, h]

theorem perform_findOne_some (h : t.find? u = some row) :
    (table t).perform (.findOne u) = (.ok (some row.toAlbum), table t) := by
  rw [perform_findOne, h]

theorem perform_remove_none (h : t.find? u = none) :
    (table t).perform (.remove u) = (.error .notFound, table t) := by
  rw [perform_remove, h]
  rfl

theorem perform_remove_some (h : t.find? u = some row) :
    (table t).perform (.remove u) = (.ok (), table (t.erase u)) := by
  rw [perform_remove, h]
  rfl

theorem perform_insert_dateOutOfRange (h : Row.ofAlbum? a = none) :
    (table t).perform (.insert a) = (.error .dateOutOfRange, table t) := by
  rw [perform_insert, h]

theorem perform_insert_tooLarge (hrow : Row.ofAlbum? a = some row)
    (hfits : fitsInt64 row.price = false) :
    (table t).perform (.insert a) = (.error .integerTooLarge, table t) := by
  rw [perform_insert, hrow]
  simp only [hfits, Bool.not_false, if_true]

theorem perform_insert_duplicate {old : Row} (hrow : Row.ofAlbum? a = some row)
    (hfits : fitsInt64 row.price = true) (h : t.find? row.id = some old) :
    (table t).perform (.insert a) = (.error .duplicateId, table t) := by
  rw [perform_insert, hrow]
  simp only [hfits, h, Bool.not_true, Bool.false_eq_true, if_false, Option.isSome_some, if_true]

theorem perform_insert_new (hrow : Row.ofAlbum? a = some row) (hfits : fitsInt64 row.price = true)
    (h : t.find? row.id = none) : (table t).perform (.insert a) = (.ok (), table (t.put row)) := by
  rw [perform_insert, hrow]
  simp only [hfits, h, Bool.not_true, Bool.false_eq_true, if_false, Option.isSome_none]

theorem perform_update_dateOutOfRange (h : Row.ofAlbum? a = none) :
    (table t).perform (.update a) = (.error .dateOutOfRange, table t) := by
  rw [perform_update, h]

theorem perform_update_tooLarge (hrow : Row.ofAlbum? a = some row)
    (hfits : fitsInt64 row.price = false) :
    (table t).perform (.update a) = (.error .integerTooLarge, table t) := by
  rw [perform_update, hrow]
  simp only [hfits, Bool.not_false, if_true]

theorem perform_update_none (hrow : Row.ofAlbum? a = some row) (hfits : fitsInt64 row.price = true)
    (h : t.find? row.id = none) : (table t).perform (.update a) = (.error .notFound, table t) := by
  rw [perform_update, hrow]
  simp only [hfits, h, Bool.not_true, Bool.false_eq_true, if_false, Option.isSome_none]

theorem perform_update_some {old : Row} (hrow : Row.ofAlbum? a = some row)
    (hfits : fitsInt64 row.price = true) (h : t.find? row.id = some old) :
    (table t).perform (.update a) = (.ok (), table (t.put row)) := by
  rw [perform_update, hrow]
  simp only [hfits, h, Bool.not_true, Bool.false_eq_true, if_false, Option.isSome_some, if_true]

end Answers

end Database

end Discography.Store
