import Discography.Log.Event
import Discography.Store.Database
import Discography.Store.Session

/-!
# Plans

What an endpoint does, as data: it reads the clock, draws ids, calls the storage, asks whether the
database answers, reports events and ends with a value. Each step that asks something goes on with
the answer, so that a plan can be run in one go or step by step among others.

* `run` follows a plan to its end over a backend; `run_bind` runs the parts of a plan in turn, and
  `run_reportAll` puts the events of a report in front of those that follow.
-/

set_option autoImplicit false

namespace Discography.Api

open Discography.Calendar Discography.Log Discography.Store

/-- What an endpoint does on its way to a value. -/
inductive Plan (α : Type) where
  | done (value : α)
  | report (event : Event) (next : Plan α)
  | readClock (next : Stamp → Plan α)
  | drawId (next : AlbumId → Plan α)
  | call (c : Call) (next : Except Failure c.Answer → Plan α)
  | ping (next : Except Failure Unit → Plan α)

namespace Plan

variable {α β : Type}

/-- A plan that goes on with another one. -/
def bind (f : α → Plan β) : Plan α → Plan β
  | done value => f value
  | report event next => .report event (next.bind f)
  | readClock next => .readClock fun now => (next now).bind f
  | drawId next => .drawId fun id => (next id).bind f
  | call c next => .call c fun answer => (next answer).bind f
  | ping next => .ping fun answer => (next answer).bind f

instance : Monad Plan where
  pure := done
  bind p f := p.bind f

/-- A plan that reports events. -/
def reportAll (events : List Event) (next : Plan α) : Plan α := events.foldr .report next

theorem reportAll_bind (events : List Event) (p : Plan α) (f : α → Plan β) :
    (reportAll events p).bind f = reportAll events (p.bind f) := by
  induction events with
  | nil => rfl
  | cons event events ih => exact congrArg (Plan.report event) ih

end Plan

/-! ## Running -/

/-- What answers the calls of plans. -/
structure Backend (σ : Type) where
  perform : (c : Call) → σ → Except Failure c.Answer × σ
  ping : σ → Except Failure Unit

/-- The readings of the clock and the ids that are drawn, counted from zero. -/
structure Supply where
  clock : Nat → Stamp
  ids : Nat → AlbumId

/-- Where a run stands: the state of the backend and how much has been read and drawn. -/
structure World (σ : Type) where
  store : σ
  readings : Nat := 0
  draws : Nat := 0

/-- What a run comes to. -/
structure Outcome (σ α : Type) where
  value : α
  world : World σ
  events : List Event
  calls : List Call

variable {σ α β : Type}

/-- A plan followed to its end. -/
def Plan.run (b : Backend σ) (s : Supply) : Plan α → World σ → Outcome σ α
  | .done value, w => ⟨value, w, [], []⟩
  | .report event next, w =>
    let r := next.run b s w
    { r with events := event :: r.events }
  | .readClock next, w => (next (s.clock w.readings)).run b s { w with readings := w.readings + 1 }
  | .drawId next, w => (next (s.ids w.draws)).run b s { w with draws := w.draws + 1 }
  | .call c next, w =>
    let answered := b.perform c w.store
    let r := (next answered.1).run b s { w with store := answered.2 }
    { r with calls := c :: r.calls }
  | .ping next, w => (next (b.ping w.store)).run b s w

theorem Plan.run_bind (b : Backend σ) (s : Supply) (p : Plan α) (f : α → Plan β) (w : World σ) :
    (p.bind f).run b s w =
      let first := p.run b s w
      let second := (f first.value).run b s first.world
      ⟨second.value, second.world, first.events ++ second.events,
        first.calls ++ second.calls⟩ := by
  induction p generalizing w with
  | done value => rfl
  | report event next ih => simp [bind, run, ih]
  | readClock next ih => simp [bind, run, ih]
  | drawId next ih => simp [bind, run, ih]
  | call c next ih => simp [bind, run, ih]
  | ping next ih => simp [bind, run, ih]

theorem Plan.run_reportAll (b : Backend σ) (s : Supply) (events : List Event) (p : Plan α)
    (w : World σ) :
    (Plan.reportAll events p).run b s w =
      { p.run b s w with events := events ++ (p.run b s w).events } := by
  induction events with
  | nil => rfl
  | cons event events ih =>
    show ({ (Plan.reportAll events p).run b s w with
      events := event :: ((Plan.reportAll events p).run b s w).events } : Outcome σ α) = _
    rw [ih]
    rfl

/-- A database as a backend; every call is a unit of work of its own. -/
def Backend.database : Backend Database where
  perform c d := d.perform c
  ping d := d.connect

/-! ## Plans that may fail -/

/-- A plan that ends with a value or a failure. -/
abbrev Attempt (α : Type) := ExceptT Failure Plan α

namespace Attempt

/-- A value or a failure that is already there. -/
def ofExcept (r : Except Failure α) : Attempt α := ExceptT.mk (.done r)

/-- A reading of the clock. -/
def readClock : Attempt Stamp := ExceptT.mk (.readClock fun now => .done (.ok now))

/-- An id that is drawn. -/
def drawId : Attempt AlbumId := ExceptT.mk (.drawId fun id => .done (.ok id))

end Attempt

end Discography.Api
