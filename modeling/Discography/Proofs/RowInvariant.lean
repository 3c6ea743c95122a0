import Mathlib.Algebra.Group.Int.Defs
import Discography.Proofs.Runs

/-!
# What is true of every row

A run over an empty catalog stores only rows that validation lets through, stamped by readings of the
clock that were made during the run: one for the creation and one, the same or a later one, for the
last change.

* `SoundRow` — the invariant of a row, and `SoundRow.of_effect`, which every effect keeps.
* `times_of_effect` — what one request does to the stamps of a row.
* `rows_sound` — the invariant after every run, and what it comes to if time does not go back.
-/

set_option autoImplicit false

namespace Discography.Api

open Discography.Calendar Discography.Store Discography.Http

/-- Whether later readings of the clock are never before earlier ones. -/
def Supply.Ascending (s : Supply) : Prop := ∀ m n, m ≤ n → (s.clock m).instant ≤ (s.clock n).instant

/-! ## The invariant of a row -/

/-- Texts of 1 to 255 characters and a positive price of 64 bits. -/
structure InBounds (title artist : String) (price : Int) : Prop where
  title : 1 ≤ title.length ∧ title.length ≤ 255
  artist : 1 ≤ artist.length ∧ artist.length ≤ 255
  price : 1 ≤ price ∧ price ≤ 2 ^ 63 - 1

/-- A draft that has been read and that the validator lets through is in bounds. -/
theorem inBounds_of_valid {body : ByteArray} {d : Draft} (hr : Draft.parse body = .ok d)
    (hv : (catalog.validator d).isEmpty = true) : InBounds d.title d.artist d.price := by
  obtain ⟨htitle, hartist, hprice⟩ := Draft.problems_eq_nil_iff.1 (List.isEmpty_iff.1 hv)
  have hfits : int64Min ≤ d.price ∧ d.price ≤ int64Max := of_decide_eq_true (fitsInt64_of_parse hr)
  exact ⟨htitle, hartist, hprice, hfits.2⟩

/-- A row is in bounds, and its stamps are the UTC wall times of two of the first `n` readings of the
clock, the creation no later than the last change. -/
structure SoundRow (s : Supply) (n : Nat) (row : Row) : Prop where
  bounds : InBounds row.title row.artist row.price
  stamps : ∃ i j, i ≤ j ∧ j < n ∧ (s.clock i).toUtc? = some row.created ∧
    (s.clock j).toUtc? = some row.updated

namespace SoundRow

variable {s : Supply} {n k : Nat} {row : Row}

theorem mono (h : SoundRow s n row) (hnk : n ≤ k) : SoundRow s k row := by
  obtain ⟨i, j, hij, hj, hc, hu⟩ := h.stamps
  exact ⟨h.bounds, i, j, hij, Nat.lt_of_lt_of_le hj hnk, hc, hu⟩

/-- The row of a new album is sound as of the reading that it was made at. -/
theorem of_create {d : Draft} {id : AlbumId} (hd : InBounds d.title d.artist d.price)
    (h : Row.ofAlbum? (Album.create id d (s.clock n)) = some row) : SoundRow s (n + 1) row := by
  obtain ⟨-, htitle, hartist, hprice, hc, hu⟩ := Row.ofAlbum?_eq_some_iff.1 h
  refine ⟨?_, n, n, Nat.le_refl n, Nat.lt_succ_self n, hc, hu⟩
  rw [htitle, hartist, hprice]
  exact hd

/-- The row of a changed album is sound if the one before was: it keeps its creation. -/
theorem of_withDraft {d : Draft} {old : Row} (hold : SoundRow s n old)
    (hd : InBounds d.title d.artist d.price)
    (h : Row.ofAlbum? (old.toAlbum.withDraft d (s.clock n)) = some row) :
    SoundRow s (n + 1) row := by
  obtain ⟨-, htitle, hartist, hprice, hc, hu⟩ := Row.ofAlbum?_eq_some_iff.1 h
  have hcreated : old.created = row.created := Option.some.inj ((Stamp.toUtc?_utc _).symm.trans hc)
  obtain ⟨i, j, hij, hj, hi, -⟩ := hold.stamps
  refine ⟨?_, i, n, by omega, Nat.lt_succ_self n, ?_, hu⟩
  · rw [htitle, hartist, hprice]
    exact hd
  · rw [hi, hcreated]

/-- If time does not go back, a row was created no later than it was changed, and that no later than
the latest reading. -/
theorem ordered (h : SoundRow s n row) (hs : s.Ascending) :
    row.created.micros ≤ row.updated.micros ∧ 0 < n ∧
      (row.updated.micros : Int) ≤ (s.clock (n - 1)).instant := by
  obtain ⟨i, j, hij, hj, hc, hu⟩ := h.stamps
  have hi := Stamp.toUtc?_eq_some_iff.1 hc
  have hj' := Stamp.toUtc?_eq_some_iff.1 hu
  have h₁ := hs i j hij
  have h₂ := hs j (n - 1) (by omega)
  omega

end SoundRow

/-! ## What a request does to the rows -/

section Step

variable {s : Supply} {r : Request} {t t' : Table} {w : World Database}
  {o : Outcome Database Response}

/-- Whatever a request does, all rows stay sound. -/
theorem SoundRow.of_effect (h : ∀ row ∈ t.rows, SoundRow s w.readings row)
    (he : Effect s catalog r t w o t') : ∀ row ∈ t'.rows, SoundRow s o.world.readings row := by
  intro row hrow
  cases he with
  | created method draft valid row_eq free value readings draws =>
    rw [readings]
    rcases mem_putRow hrow with rfl | hrow
    · exact .of_create (inBounds_of_valid draft valid) row_eq
    · exact (h row hrow).mono (Nat.le_succ _)
  | changed method named draft valid found row_eq value readings draws =>
    rw [readings]
    rcases mem_putRow hrow with rfl | hrow
    · exact .of_withDraft (h _ (List.mem_of_find?_eq_some found)) (inBounds_of_valid draft valid)
        row_eq
    · exact (h row hrow).mono (Nat.le_succ _)
  | removed method named found value readings draws =>
    rw [readings]
    exact h row (List.mem_filter.1 hrow).1
  | kept quiet readings draws => exact (h row hrow).mono readings

/-- No request moves the creation of a row, and if time does not go back none sets its last change
to an earlier moment. -/
theorem times_of_effect (h : ∀ row ∈ t.rows, SoundRow s w.readings row)
    (he : Effect s catalog r t w o t') {u : AlbumId} {row row' : Row}
    (hrow : t.find? u = some row) (hrow' : t'.find? u = some row') :
    row'.created = row.created ∧ (s.Ascending → row.updated.micros ≤ row'.updated.micros) := by
  have hsame (h : t'.find? u = t.find? u) :
      row'.created = row.created ∧ (s.Ascending → row.updated.micros ≤ row'.updated.micros) := by
    obtain rfl : row' = row := Option.some.inj ((hrow'.symm.trans h).trans hrow)
    exact ⟨rfl, fun _ => Nat.le_refl _⟩
  cases he with
  | @created d new method draft valid row_eq free value readings draws =>
    have hid : new.id = s.ids w.draws := Row.id_of_ofAlbum? row_eq
    refine hsame ?_
    rw [Table.find?_put, if_neg]
    rintro rfl
    rw [hid, free] at hrow
    cases hrow
  | @changed id d old new method named draft valid found row_eq value readings draws =>
    have hid : new.id = id := Table.id_of_changed found row_eq
    by_cases hu : id = u
    · subst hu
      obtain rfl : old = row := Option.some.inj (found.symm.trans hrow)
      rw [Table.find?_put, if_pos hid] at hrow'
      obtain rfl : new = row' := Option.some.inj hrow'
      obtain ⟨-, -, -, -, hc, hn⟩ := Row.ofAlbum?_eq_some_iff.1 row_eq
      obtain ⟨i, j, -, hj, -, hlast⟩ := (h old (List.mem_of_find?_eq_some found)).stamps
      have hold := Stamp.toUtc?_eq_some_iff.1 hlast
      have hnew := Stamp.toUtc?_eq_some_iff.1 hn
      refine ⟨Option.some.inj (hc.symm.trans (Stamp.toUtc?_utc _)), fun hs => ?_⟩
      have hle : (s.clock j).instant ≤ (s.clock w.readings).instant := hs j w.readings (by omega)
      rw [show (old.toAlbum.withDraft d (s.clock w.readings)).updated = s.clock w.readings from rfl]
        at hnew
      omega
    · exact hsame (by rw [Table.find?_put, hid, if_neg hu])
  | @removed id old method named found value readings draws =>
    rw [Table.find?_erase] at hrow'
    split at hrow'
    · cases hrow'
    · rename_i hu
      exact hsame (by rw [Table.find?_erase, if_neg hu])
  | kept quiet readings draws => exact hsame rfl

end Step

theorem soundRow_after (s : Supply) (rs : List Request) :
    ∃ t, (worldAfter .database s catalog rs emptyCatalog).store = .table t ∧
      ∀ row ∈ t.rows, SoundRow s (worldAfter .database s catalog rs emptyCatalog).readings row :=
  run_invariant hasDatabase_catalog
    (P := fun t w _ => ∀ row ∈ t.rows, SoundRow s w.readings row)
    (fun _ _ _ _ _ h he => .of_effect h he) rs .empty emptyCatalog [] rfl
    fun _ hrow => absurd hrow List.not_mem_nil

/-- **Every row of every reachable table is sound**: after any run of requests over an empty catalog,
whatever ids are drawn and whatever the clock reads, no two rows have one id, texts have 1 to 255
characters, prices are positive and have 64 bits, and stamps are at UTC. No request moves the creation
of a row. If time does not go back, no row was changed before it was created or after the latest
reading, and no request sets the last change of a row to an earlier moment. -/
theorem rows_sound (s : Supply) (rs : List Request) :
    let w := worldAfter .database s catalog rs emptyCatalog
    ∃ t, w.store = .table t ∧
      t.rows.Pairwise (fun a b => a.id ≠ b.id) ∧
      (∀ row ∈ t.rows, (1 ≤ row.title.length ∧ row.title.length ≤ 255) ∧
        (1 ≤ row.artist.length ∧ row.artist.length ≤ 255) ∧
        (1 ≤ row.price ∧ row.price ≤ 2 ^ 63 - 1) ∧
        row.toAlbum.created.isUtc = true ∧ row.toAlbum.updated.isUtc = true ∧
        ∃ i j, i ≤ j ∧ j < w.readings ∧ (s.clock i).toUtc? = some row.created ∧
          (s.clock j).toUtc? = some row.updated) ∧
      (s.Ascending → ∀ row ∈ t.rows, row.created.micros ≤ row.updated.micros ∧ 0 < w.readings ∧
        (row.updated.micros : Int) ≤ (s.clock (w.readings - 1)).instant) ∧
      ∀ (r : Request) (t' : Table), (serve .database s catalog r w).world.store = .table t' →
        ∀ row ∈ t.rows, ∀ row' ∈ t'.rows, row'.id = row.id →
          row'.created = row.created ∧ (s.Ascending → row.updated.micros ≤ row'.updated.micros) := by
  intro w
  obtain ⟨t, hw, hsound⟩ := soundRow_after s rs
  refine ⟨t, hw, t.rows_pairwise_ne, fun row hrow => ?_,
    fun hs row hrow => (hsound row hrow).ordered hs, ?_⟩
  · have hrow := hsound row hrow
    exact ⟨hrow.bounds.title, hrow.bounds.artist, hrow.bounds.price, rfl, rfl, hrow.stamps⟩
  · intro r t' hw' row hrow row' hrow' hid
    obtain ⟨t₁, hw₁, he⟩ := hasEffect (r := r) (s := s) hasDatabase_catalog hw
    obtain rfl : t₁ = t' := Database.table.inj (hw₁.symm.trans hw')
    refine times_of_effect hsound he (Table.mem_rows_iff.1 hrow) ?_
    rw [← hid]
    exact Table.mem_rows_iff.1 hrow'

theorem rows_sound_after_adding :
    standstill.Ascending ∧ ∃ t row,
      (worldAfter .database standstill catalog [adding] emptyCatalog).store = .table t ∧
        row ∈ t.rows ∧ row.created.micros ≤ row.updated.micros := by
  have hs : standstill.Ascending := fun _ _ _ => Int.le_refl _
  have hrow : (worldAfter .database standstill catalog [adding] emptyCatalog).store =
      .table (Table.empty.put ⟨default, "Blue", "Joni", 1, default, default⟩) := by decide +kernel
  obtain ⟨t, hw, -, -, hordered, -⟩ := rows_sound standstill [adding]
  obtain rfl : t = Table.empty.put _ := Database.table.inj (hw.symm.trans hrow)
  exact ⟨hs, _, _, hw, List.mem_singleton_self _, (hordered hs _ (List.mem_singleton_self _)).1⟩

end Discography.Api
