import Discography.Api.Service

/-!
# Requests served side by side

Requests that are served side by side take turns: one of them makes one step of its plan, then the
same or another one. A storage call is a single step and a unit of work of its own; no other step
touches the storage. Each request has its own reading of the clock and its own id.

* `Stage.step`, `interleave` — turns, in whatever order.
* `Plan.advance` — a plan without the steps before its next storage call, which no turn changes.
* `Ends`, `Settled` — what a plan comes to in one go, and plans that change nothing any more.
-/

set_option autoImplicit false

namespace Discography.Api

open Discography.Calendar Discography.Log Discography.Store Discography.Http

variable {α β : Type}

/-- A request with the reading of the clock and the id that are kept for it. -/
structure Task where
  request : Request
  now : Stamp
  id : AlbumId

namespace Task

/-- The clock and the ids of a task. -/
def supply (k : Task) : Supply := ⟨fun _ => k.now, fun _ => k.id⟩

end Task

namespace Plan

/-- One step of a plan: what is left of it, and the database afterwards. -/
def step (k : Task) (d : Database) : Plan α → Plan α × Database
  | done value => (done value, d)
  | report _ next => (next, d)
  | readClock next => (next k.now, d)
  | drawId next => (next k.id, d)
  | call c next => (next (d.perform c).1, (d.perform c).2)
  | ping next => (next d.connect, d)

/-- A plan at its next storage call or at its end, over a database that can be opened. -/
def advance (k : Task) : Plan α → Plan α
  | report _ next => next.advance k
  | readClock next => (next k.now).advance k
  | drawId next => (next k.id).advance k
  | ping next => (next (.ok ())).advance k
  | p => p

theorem advance_reportAll (k : Task) (events : List Event) (p : Plan α) :
    (reportAll events p).advance k = p.advance k := by
  induction events with
  | nil => rfl
  | cons event events ih => exact ih

/-- The value of a plan that has come to its end. -/
def value? : Plan α → Option α
  | done value => some value
  | _ => none

theorem eq_done_of_value? {p : Plan α} {x : α} (h : p.value? = some x) : p = .done x := by
  cases p with
  | done y => exact congrArg done (Option.some.inj h)
  | _ => cases h

/-- Whether a plan draws an id before it calls the storage. -/
def draws (k : Task) : Plan α → Bool
  | report _ next => next.draws k
  | readClock next => (next k.now).draws k
  | drawId _ => true
  | ping next => (next (.ok ())).draws k
  | _ => false

end Plan

/-! ## Turns -/

/-- Requests under way: the database they share, and what is left of the plan of each. -/
structure Stage (n : Nat) where
  store : Database
  plans : Fin n → Plan Response

variable {n : Nat}

/-- The beginning: nothing has been done for any request. -/
def Stage.start (ctx : Context) (tasks : Fin n → Task) (d : Database) : Stage n :=
  ⟨d, fun i => respond ctx (tasks i).request⟩

/-- One request makes one step. -/
def Stage.step (tasks : Fin n → Task) (c : Stage n) (i : Fin n) : Stage n :=
  let next := (c.plans i).step (tasks i) c.store
  ⟨next.2, fun j => if j = i then next.1 else c.plans j⟩

/-- Requests take turns in the order of a schedule. -/
def interleave (tasks : Fin n → Task) (schedule : List (Fin n)) (c : Stage n) : Stage n :=
  schedule.foldl (Stage.step tasks) c

/-- Requests served one after the other: the response to each, and the database afterwards. -/
def inTurn (ctx : Context) (tasks : Fin n → Task) :
    List (Fin n) → Database → List (Fin n × Response) × Database
  | [], d => ([], d)
  | i :: rest, d =>
    let o := serve .database (tasks i).supply ctx (tasks i).request { store := d }
    let after := inTurn ctx tasks rest o.world.store
    ((i, o.value) :: after.1, after.2)

/-- The plan of a task draws the id that is kept for it. -/
def Task.Draws (ctx : Context) (k : Task) : Prop := (respond ctx k.request).draws k = true

/-- Ids are never drawn again: one that a task draws is not drawn by another task, and is not the id
of a row, which was drawn before. -/
structure NeverRepeats (ctx : Context) (tasks : Fin n → Task) (t : Table) : Prop where
  fresh : ∀ i, (tasks i).Draws ctx → t.find? (tasks i).id = none
  distinct : ∀ i j, (tasks i).Draws ctx → (tasks j).Draws ctx → (tasks i).id = (tasks j).id → i = j

@[simp] theorem Stage.step_plans_self (tasks : Fin n → Task) (c : Stage n) (i : Fin n) :
    (c.step tasks i).plans i = ((c.plans i).step (tasks i) c.store).1 := if_pos rfl

theorem Stage.step_plans_of_ne (tasks : Fin n → Task) (c : Stage n) {i j : Fin n} (h : j ≠ i) :
    (c.step tasks i).plans j = c.plans j := if_neg h

theorem inTurn_concat (ctx : Context) (tasks : Fin n → Task) (order : List (Fin n)) (i : Fin n)
    (d : Database) :
    inTurn ctx tasks (order ++ [i]) d =
      let before := inTurn ctx tasks order d
      let o := serve .database (tasks i).supply ctx (tasks i).request { store := before.2 }
      (before.1 ++ [(i, o.value)], o.world.store) := by
  induction order generalizing d with
  | nil => rfl
  | cons j rest ih => simp [inTurn, ih]

/-! ## What a step does to a plan -/

section Steps

variable {k : Task} {t : Table} {p : Plan α} {x : α}

/-- A step is a storage call or touches neither the database nor what the plan advances to. -/
theorem Plan.step_cases (k : Task) (t : Table) (p : Plan α) :
    (∃ c next, p = .call c next) ∨
      ((p.step k (.table t)).2 = .table t ∧ (p.step k (.table t)).1.advance k = p.advance k) := by
  cases p with
  | call c next => exact .inl ⟨c, next, rfl⟩
  | _ => exact .inr ⟨rfl, rfl⟩

/-- A turn of a request that is about to make a storage call. -/
theorem Stage.step_call {n : Nat} (tasks : Fin n → Task) {c : Stage n} {i : Fin n} {d' : Database}
    {call : Call} {next : Except Failure call.Answer → Plan Response}
    {answer : Except Failure call.Answer} (hp : c.plans i = .call call next)
    (hc : c.store.perform call = (answer, d')) :
    (c.step tasks i).plans i = next answer ∧ (c.step tasks i).store = d' := by
  have hstep : (c.plans i).step (tasks i) c.store = (next answer, d') := by
    rw [hp]
    show (next (c.store.perform call).1, (c.store.perform call).2) = _
    rw [hc]
  exact ⟨(c.step_plans_self tasks i).trans (congrArg Prod.fst hstep), congrArg Prod.snd hstep⟩

/-- A plan comes to a value in one go and leaves a database, however much has been read and drawn. -/
def Ends (k : Task) (p : Plan α) (d : Database) (x : α) (d' : Database) : Prop :=
  ∀ readings draws, (p.run .database k.supply ⟨d, readings, draws⟩).value = x ∧
    (p.run .database k.supply ⟨d, readings, draws⟩).world.store = d'

theorem Ends.done {d : Database} : Ends k (.done x) d x d := fun _ _ => ⟨rfl, rfl⟩

theorem Ends.call {d d' : Database} {c : Call} {next : Except Failure c.Answer → Plan α}
    (h : Ends k (next (d.perform c).1) (d.perform c).2 x d') : Ends k (.call c next) d x d' := h

theorem Ends.of_advance {d' : Database} (h : Ends k (p.advance k) (.table t) x d') :
    Ends k p (.table t) x d' := by
  induction p with
  | done value => exact h
  | report event next ih => exact ih h
  | readClock next ih => exact fun readings draws => ih k.now h (readings + 1) draws
  | drawId next ih => exact fun readings draws => ih k.id h readings (draws + 1)
  | call c next => exact h
  | ping next ih => exact ih (.ok ()) h

/-! ## Plans that change nothing any more -/

/-- A plan that comes to a value whatever tables it meets, and leaves them as they are. -/
inductive Settled (k : Task) (x : α) : Plan α → Prop
  | done {p : Plan α} (h : p.advance k = .done x) : Settled k x p
  | call {p : Plan α} {c : Call} {next : Except Failure c.Answer → Plan α}
      {answer : Except Failure c.Answer} (h : p.advance k = .call c next)
      (same : ∀ t, (Database.table t).perform c = (answer, .table t))
      (rest : Settled k x (next answer)) : Settled k x p

namespace Settled

theorem of_advance_eq {q : Plan α} (h : Settled k x p) (hq : q.advance k = p.advance k) :
    Settled k x q := by
  cases h with
  | done h => exact .done (hq.trans h)
  | call h same rest => exact .call (hq.trans h) same rest

theorem step (h : Settled k x p) (t : Table) :
    Settled k x (p.step k (.table t)).1 ∧ (p.step k (.table t)).2 = .table t := by
  rcases p.step_cases k t with ⟨c, next, rfl⟩ | ⟨hstore, hadvance⟩
  · cases h with
    | done h => cases h
    | call h same rest =>
      cases h
      show Settled k x (next ((Database.table t).perform c).1) ∧ ((Database.table t).perform c).2 = _
      rw [same t]
      exact ⟨rest, rfl⟩
  · exact ⟨h.of_advance_eq hadvance, hstore⟩

theorem ends (h : Settled k x p) (t : Table) : Ends k p (.table t) x (.table t) := by
  induction h with
  | done h =>
    refine .of_advance ?_
    rw [h]
    exact .done
  | call h same rest ih =>
    refine .of_advance ?_
    rw [h]
    refine .call ?_
    rw [same t]
    exact ih

theorem eq_of_done {y : α} (h : Settled k x (.done y)) : y = x := by
  cases h with
  | done h => exact Plan.done.inj h
  | call h => cases h

end Settled

end Steps

end Discography.Api
