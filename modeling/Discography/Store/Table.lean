import Discography.Album.Basic

/-!
# The table of albums

A row is an album whose stamps are UTC wall times. A table holds at most one row of an id, in the
order of the ids, so that two tables with the same rows are equal.

* `find?_put`, `find?_erase` — what a table holds after a row is put into it or taken out.
* `mem_rows_iff` — a table holds a row exactly when looking up its id gives it.
* `Table.ext_find?` — a table is determined by what is found in it.
-/

set_option autoImplicit false

namespace Discography.Store

open Discography.Calendar

/-- A stored album. -/
structure Row where
  id : AlbumId
  title : String
  artist : String
  price : Int
  created : WallTime
  updated : WallTime
  deriving DecidableEq, Repr

namespace Row

/-- The row of an album, if the UTC dates of its stamps are in the calendar. -/
def ofAlbum? (a : Album) : Option Row :=
  match a.created.toUtc?, a.updated.toUtc? with
  | some created, some updated => some ⟨a.id, a.title, a.artist, a.price, created, updated⟩
  | _, _ => none

/-- The album of a row, with stamps at UTC. -/
def toAlbum (r : Row) : Album :=
  ⟨r.id, r.title, r.artist, r.price, .utc r.created, .utc r.updated⟩

theorem ofAlbum?_toAlbum (r : Row) : ofAlbum? r.toAlbum = some r := by
  simp [ofAlbum?, toAlbum, Stamp.toUtc?_utc]

theorem id_of_ofAlbum? {a : Album} {r : Row} (h : ofAlbum? a = some r) : r.id = a.id := by
  unfold ofAlbum? at h
  split at h
  · cases h; rfl
  · simp at h

end Row

/-- Whether the rows have strictly ascending ids. -/
abbrev Ordered (rows : List Row) : Prop := rows.Pairwise fun a b => a.id.value < b.id.value

/-- The rows with a row put at its place; it replaces the row of the same id, if there is one. -/
def putRow (r : Row) : List Row → List Row
  | [] => [r]
  | a :: rest =>
    if r.id.value < a.id.value then r :: a :: rest
    else if r.id.value = a.id.value then r :: rest
    else a :: putRow r rest

theorem mem_putRow {r x : Row} {rows : List Row} (h : x ∈ putRow r rows) : x = r ∨ x ∈ rows := by
  induction rows with
  | nil => simpa [putRow] using h
  | cons a rest ih =>
    unfold putRow at h
    split at h
    · simpa using h
    · split at h
      · rcases List.mem_cons.1 h with h | h
        · exact .inl h
        · exact .inr (List.mem_cons_of_mem a h)
      · rcases List.mem_cons.1 h with h | h
        · exact .inr (by simp [h])
        · rcases ih h with h | h
          · exact .inl h
          · exact .inr (List.mem_cons_of_mem a h)

theorem ordered_putRow {r : Row} {rows : List Row} (h : Ordered rows) :
    Ordered (putRow r rows) := by
  induction rows with
  | nil => simp [putRow, Ordered]
  | cons a rest ih =>
    obtain ⟨ha, hr⟩ := List.pairwise_cons.1 h
    unfold putRow
    split
    · next hlt =>
      refine List.pairwise_cons.2 ⟨fun x hx => ?_, h⟩
      rcases List.mem_cons.1 hx with rfl | hx
      · exact hlt
      · exact Nat.lt_trans hlt (ha x hx)
    · split
      · next heq => exact List.pairwise_cons.2 ⟨fun x hx => heq ▸ ha x hx, hr⟩
      · next hne hn =>
        refine List.pairwise_cons.2 ⟨fun x hx => ?_, ih hr⟩
        rcases mem_putRow hx with rfl | hx
        · omega
        · exact ha x hx

/-- The stored albums, in the order of their ids. -/
structure Table where
  rows : List Row
  ordered : Ordered rows
  deriving DecidableEq

namespace Table

/-- A table without rows. -/
def empty : Table := ⟨[], List.Pairwise.nil⟩

instance : Inhabited Table := ⟨empty⟩

/-- The row of an id. -/
def find? (t : Table) (id : AlbumId) : Option Row := t.rows.find? fun r => r.id == id

/-- A table with a row at its place; it replaces the row of the same id, if there is one. -/
def put (t : Table) (r : Row) : Table := ⟨putRow r t.rows, ordered_putRow t.ordered⟩

/-- A table without the row of an id. -/
def erase (t : Table) (id : AlbumId) : Table :=
  ⟨t.rows.filter fun r => r.id != id, t.ordered.filter _⟩

/-- The number of rows. -/
def size (t : Table) : Nat := t.rows.length

@[simp] theorem find?_empty (id : AlbumId) : empty.find? id = none := rfl

theorem find?_putRow (r : Row) (rows : List Row) (h : Ordered rows) (id : AlbumId) :
    (putRow r rows).find? (fun x => x.id == id) =
      if r.id = id then some r else rows.find? fun x => x.id == id := by
  induction rows with
  | nil => by_cases he : r.id = id <;> simp [putRow, he]
  | cons a rest ih =>
    obtain ⟨ha, hr⟩ := List.pairwise_cons.1 h
    unfold putRow
    split
    · by_cases he : r.id = id <;> simp [he]
    · split
      · next heq =>
        have hid : r.id = a.id := by
          cases hx : r.id; cases hy : a.id; simp_all
        by_cases he : r.id = id
        · simp [he]
        · have : ¬ a.id = id := fun h => he (hid.trans h)
          simp [he, this]
      · next hne hn =>
        have hid : r.id ≠ a.id := fun h => hn (by rw [h])
        rw [List.find?_cons, List.find?_cons, ih hr]
        by_cases he : r.id = id
        · have : (a.id == id) = false := beq_false_of_ne fun h => hid (he.trans h.symm)
          rw [this, if_pos he]
        · simp [he]

theorem find?_put (t : Table) (r : Row) (id : AlbumId) :
    (t.put r).find? id = if r.id = id then some r else t.find? id :=
  find?_putRow r t.rows t.ordered id

theorem find?_erase (t : Table) (id other : AlbumId) :
    (t.erase id).find? other = if id = other then none else t.find? other := by
  unfold find? erase
  simp only
  rw [List.find?_filter]
  split
  · next h =>
    subst h
    rw [List.find?_eq_none]
    intro r _
    simp
  · next h =>
    congr 1
    funext r
    by_cases hr : r.id = other
    · have : ¬ r.id = id := fun hx => h (hx.symm.trans hr)
      simp [hr]
      exact fun hx => h hx.symm
    · simp [hr]

theorem id_of_find? {t : Table} {id : AlbumId} {r : Row} (h : t.find? id = some r) :
    r.id = id := by
  simpa using List.find?_some h

theorem mem_rows_iff {t : Table} {r : Row} : r ∈ t.rows ↔ t.find? r.id = some r := by
  constructor
  · intro h
    unfold find?
    have ho := t.ordered
    generalize t.rows = rows at *
    induction rows with
    | nil => simp at h
    | cons a rest ih =>
      obtain ⟨ha, hr⟩ := List.pairwise_cons.1 ho
      rcases List.mem_cons.1 h with rfl | h
      · simp
      · have hlt := ha r h
        have hne : (a.id == r.id) = false :=
          beq_false_of_ne fun hx => by rw [hx] at hlt; omega
        rw [List.find?_cons, hne]
        exact ih h hr
  · exact List.mem_of_find?_eq_some

/-- Two ordered lists with the same rows are equal. -/
theorem eq_of_ordered {xs ys : List Row} (hx : Ordered xs) (hy : Ordered ys)
    (h : ∀ r, r ∈ xs ↔ r ∈ ys) : xs = ys := by
  induction xs generalizing ys with
  | nil =>
    cases ys with
    | nil => rfl
    | cons b ys => exact absurd ((h b).2 (by simp)) (by simp)
  | cons a xs ih =>
    cases ys with
    | nil => exact absurd ((h a).1 (by simp)) (by simp)
    | cons b ys =>
      obtain ⟨ha, hxs⟩ := List.pairwise_cons.1 hx
      obtain ⟨hb, hys⟩ := List.pairwise_cons.1 hy
      have hab : a = b := by
        rcases List.mem_cons.1 ((h a).1 (by simp)) with hab | hab
        · exact hab
        · rcases List.mem_cons.1 ((h b).2 (by simp)) with hba | hba
          · exact hba.symm
          · have := hb a hab
            have := ha b hba
            omega
      subst hab
      rw [ih hxs hys]
      intro r
      constructor
      · intro hr
        rcases List.mem_cons.1 ((h r).1 (List.mem_cons_of_mem a hr)) with rfl | hr'
        · exact absurd (ha r hr) (Nat.lt_irrefl _)
        · exact hr'
      · intro hr
        rcases List.mem_cons.1 ((h r).2 (List.mem_cons_of_mem a hr)) with rfl | hr'
        · exact absurd (hb r hr) (Nat.lt_irrefl _)
        · exact hr'

theorem ext_find? {s t : Table} (h : ∀ id, s.find? id = t.find? id) : s = t := by
  cases s with | mk xs hx =>
  cases t with | mk ys hy =>
  congr
  refine eq_of_ordered hx hy fun r => ?_
  have h1 := @mem_rows_iff ⟨xs, hx⟩ r
  have h2 := @mem_rows_iff ⟨ys, hy⟩ r
  simp only at h1 h2
  rw [h1, h2, h]

end Table

end Discography.Store
