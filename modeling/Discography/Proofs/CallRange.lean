import Mathlib.Algebra.Group.Int.Defs
import Discography.Proofs.EndpointCalls

/-!
# The integers of storage calls

The database holds integers of 64 bits, and its driver refuses any other. A price comes from a body
and a window from a query, both of any length; none that is out of range gets as far as a storage
call, so that the refusal of the driver is never met. This holds for requests that are served in turn
and for requests that take turns.

* `Database.perform_ne_tooLarge` — a call in range is never refused by the driver.
* `Plan.Bounded` — plans with calls in range only; every turn keeps it.
* `storage_calls_in_range` — the calls of every run of requests.
-/

set_option autoImplicit false

namespace Discography

/-- An integer within the bounds of 64 bits fits. -/
theorem fitsInt64_of_bounds {n : Int} (hmin : -2 ^ 63 ≤ n) (hmax : n ≤ 2 ^ 63 - 1) :
    fitsInt64 n = true := by
  refine decide_eq_true ?_
  unfold int64Min int64Max
  omega

namespace Store

namespace Database

/-- A database without a table of albums fails every call for that reason, or because a date is out
of range, which is found before the database is asked. -/
theorem perform_of_no_table {d : Database} {f : Failure} (h : d.table? = .error f) (c : Call) :
    (d.perform c).1 = .error f ∨ (d.perform c).1 = .error .dateOutOfRange := by
  cases c with
  | insert a =>
    cases hrow : Row.ofAlbum? a with
    | none =>
      right
      simp only [perform, Session.perform, Session.add, hrow]
    | some row =>
      left
      simp only [perform, Session.perform, Session.add, Session.begin, Session.commit,
        Session.flush, Session.insertAll, insertRow, hrow, h, List.nil_append, List.isEmpty_cons,
        Bool.false_eq_true, if_false]
  | findAll offset limit =>
    left
    simp only [perform, Session.perform, Session.statement, Session.begin, selectWindow, h]
  | findOne id =>
    left
    simp only [perform, Session.perform, Session.statement, Session.begin, selectRow, h]
  | update a =>
    cases hrow : Row.ofAlbum? a with
    | none =>
      right
      simp only [perform, Session.perform, hrow]
    | some row =>
      left
      simp only [perform, Session.perform, Session.statement, Session.begin, Session.settle,
        updateRow, hrow, h]
  | remove id =>
    left
    simp only [perform, Session.perform, Session.statement, Session.begin, Session.settle,
      deleteRow, h]

/-- The row of an album whose price is in range fits. -/
theorem fitsInt64_row {a : Album} {row : Row} (hrow : Row.ofAlbum? a = some row)
    (h : -2 ^ 63 ≤ a.price ∧ a.price ≤ 2 ^ 63 - 1) : fitsInt64 row.price = true := by
  rw [Row.price_of_ofAlbum? hrow]
  exact fitsInt64_of_bounds h.1 h.2

/-- A call on a table is refused by the driver only for an integer that is out of range. -/
theorem perform_table_ne_tooLarge {c : Call} (h : c.InRange) (t : Table) :
    ((table t).perform c).1 ≠ .error .integerTooLarge := by
  have other {α : Type} {f : Failure} (hf : f ≠ .integerTooLarge) :
      (.error f : Except Failure α) ≠ .error .integerTooLarge := fun he => hf (Except.error.inj he)
  have answered {α : Type} {x : α} : (.ok x : Except Failure α) ≠ .error .integerTooLarge := nofun
  cases c with
  | insert a =>
    rw [perform_insert]
    cases hrow : Row.ofAlbum? a with
    | none => exact other (by decide)
    | some row =>
      dsimp only
      rw [fitsInt64_row hrow h, Bool.not_true, if_neg Bool.false_ne_true]
      split
      · exact other (by decide)
      · exact answered
  | findAll offset limit =>
    obtain ⟨⟨hstart, hoffset⟩, hpos, hmax⟩ := h
    rw [perform_findAll, fitsInt64_of_bounds (by omega) hoffset,
      fitsInt64_of_bounds (by omega) (by omega), Bool.and_true, if_pos rfl]
    dsimp only
    split
    · exact other (by decide)
    · exact answered
  | findOne id =>
    rw [perform_findOne]
    dsimp only
    split
    · exact other (by decide)
    · exact answered
  | update a =>
    rw [perform_update]
    cases hrow : Row.ofAlbum? a with
    | none => exact other (by decide)
    | some row =>
      dsimp only
      rw [fitsInt64_row hrow h, Bool.not_true, if_neg Bool.false_ne_true]
      split
      · exact answered
      · exact other (by decide)
  | remove id =>
    rw [perform_remove]
    split
    · exact answered
    · exact other (by decide)

/-- **A call whose integers are in range is never refused by the driver**, whatever the database. -/
theorem perform_ne_tooLarge {c : Call} (h : c.InRange) (d : Database) :
    (d.perform c).1 ≠ .error .integerTooLarge := by
  have closed {d : Database} {f : Failure} (hd : d.table? = .error f) (hf : f ≠ .integerTooLarge) :
      (d.perform c).1 ≠ .error .integerTooLarge := by
    rcases perform_of_no_table hd c with hc | hc
    · rw [hc]
      exact fun he => hf (Except.error.inj he)
    · rw [hc]
      exact fun he => absurd (Except.error.inj he) (by decide)
  cases d with
  | table t => exact perform_table_ne_tooLarge h t
  | tableless => exact closed rfl (by decide)
  | unopenable => exact closed rfl (by decide)

end Database

end Store

namespace Api

open Discography.Store Discography.Http

/-! ## Requests in turn -/

variable {α σ : Type}

/-- The calls of requests that are served in turn are in range. -/
theorem inRange_of_mem_serveAll {b : Backend σ} {s : Supply} {ctx : Context} {rs : List Request}
    {w : World σ} {o : Outcome σ Response} {c : Call} (ho : o ∈ serveAll b s ctx rs w)
    (hc : c ∈ o.calls) : c.InRange := by
  induction rs generalizing w with
  | nil => cases ho
  | cons r rs ih =>
    rcases List.mem_cons.1 ho with rfl | ho
    · obtain ⟨before, next, hanswering⟩ := (calls_respond ctx r).run hc
      exact hanswering.inRange
    · exact ih ho

/-! ## Requests that take turns -/

/-- A plan that makes calls in range only, whatever has been reported before. -/
def Plan.Bounded (p : Plan α) : Prop := ∃ es, p.Calls (fun _ c _ => c.InRange) es

theorem bounded_respond (ctx : Context) (r : Request) : (respond ctx r).Bounded :=
  ⟨[], (calls_respond ctx r).mono fun _ _ _ h => h.inRange⟩

/-- A step leaves calls that were to come before it. -/
theorem Plan.Bounded.step {p : Plan α} (h : p.Bounded) (k : Task) (d : Database) :
    (p.step k d).1.Bounded := by
  obtain ⟨es, h⟩ := h
  cases p with
  | done x => exact ⟨es, h⟩
  | report event next => exact ⟨es ++ [event], h⟩
  | readClock next => exact ⟨es, h k.now⟩
  | drawId next => exact ⟨es, h k.id⟩
  | call c next => exact ⟨es, h.2 _⟩
  | ping next => exact ⟨es, h _⟩

/-- However requests take turns, calls in range are all that they are about to make. -/
theorem bounded_interleave {n : Nat} (tasks : Fin n → Task) (schedule : List (Fin n))
    {c : Stage n} (h : ∀ i, (c.plans i).Bounded) (i : Fin n) :
    ((interleave tasks schedule c).plans i).Bounded := by
  induction schedule generalizing c with
  | nil => exact h i
  | cons j rest ih =>
    refine ih fun i => ?_
    by_cases hi : i = j
    · subst hi
      rw [Stage.step_plans_self]
      exact (h i).step (tasks i) c.store
    · rw [Stage.step_plans_of_ne tasks c hi]
      exact h i

/-- **No integer out of range reaches the storage.** Whatever answers the calls, and whatever the
validator, the clock and the ids say: in every run of requests each price lies within 64 bits, each
window begins at zero or later within 64 bits and has room for 1 to 50 albums, and no database refuses
such a call for an integer that is too large. The same holds of every call that a request is about to
make while requests take turns. -/
theorem storage_calls_in_range (b : Backend σ) (s : Supply) (ctx : Context) (rs : List Request)
    (w : World σ) :
    (∀ o ∈ serveAll b s ctx rs w, ∀ c ∈ o.calls,
      c.InRange ∧ ∀ d : Database, (d.perform c).1 ≠ .error .integerTooLarge) ∧
    ∀ (n : Nat) (tasks : Fin n → Task) (schedule : List (Fin n)) (d : Database) (i : Fin n)
      (c : Call) (next : Except Failure c.Answer → Plan Response),
      (interleave tasks schedule (Stage.start ctx tasks d)).plans i = .call c next →
        c.InRange ∧ ∀ d : Database, (d.perform c).1 ≠ .error .integerTooLarge := by
  constructor
  · intro o ho c hc
    have hrange := inRange_of_mem_serveAll ho hc
    exact ⟨hrange, Database.perform_ne_tooLarge hrange⟩
  · intro n tasks schedule d i c next hnext
    have hstart (j : Fin n) : ((Stage.start ctx tasks d).plans j).Bounded :=
      bounded_respond ctx (tasks j).request
    obtain ⟨es, hcalls⟩ := bounded_interleave tasks schedule hstart i
    rw [hnext] at hcalls
    exact ⟨hcalls.1, Database.perform_ne_tooLarge hcalls.1⟩

/-- The call that adds an album to an empty catalog. -/
theorem storage_calls_in_range_adding :
    ∃ a : Album, serveAll .database standstill catalog [adding] emptyCatalog ≠ [] ∧
      (∀ o ∈ serveAll .database standstill catalog [adding] emptyCatalog, .insert a ∈ o.calls) ∧
      (Call.insert a).InRange ∧
      ∀ d : Database, (d.perform (.insert a)).1 ≠ .error .integerTooLarge := by
  let o := serve .database standstill catalog adding emptyCatalog
  let a := Album.create default ⟨"Blue", "Joni", 1⟩ (.utc default)
  have hcalls : o.calls = [.insert a] := by decide +kernel
  have hmem : o ∈ serveAll .database standstill catalog [adding] emptyCatalog := List.mem_cons_self
  have hcall : .insert a ∈ o.calls := by
    rw [hcalls]
    exact List.mem_cons_self
  obtain ⟨hrange, hanswer⟩ :=
    (storage_calls_in_range .database standstill catalog [adding] emptyCatalog).1 o hmem _ hcall
  refine ⟨a, List.cons_ne_nil _ _, ?_, hrange, hanswer⟩
  intro o' ho'
  rw [List.mem_singleton.1 ho']
  exact hcall

end Api

end Discography
