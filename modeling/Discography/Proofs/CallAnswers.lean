import Discography.Api.Plan

/-!
# Storage calls and their answers

A run asks the storage one call after the other, and each is answered before the run goes on. What is
to be known of all calls of a plan is said of the plan itself, for whatever answers it may get; a run
over any storage, and steps that are made among those of others, then make such calls only.

* `Plan.asked` — the calls of a run with their answers; `map_call_asked` ties it to the calls of `run`.
* `Plan.Calls` — what holds of every call of a plan, of what was reported before it and of what the
  plan goes on with.
* `Plan.Calls.bind`, `Plan.Calls.run`, `Plan.Calls.exists_run` — plans in turn, and the calls of a run.
-/

set_option autoImplicit false

/-- Whether a call asks for a page of albums. -/
def Discography.Store.Call.isListing : Discography.Store.Call → Bool
  | .findAll _ _ => true
  | _ => false

namespace Discography.Api

open Discography.Log Discography.Store

/-- A storage call with its answer. -/
structure Asked where
  call : Call
  answer : Except Failure call.Answer

variable {α β σ : Type}

/-- The storage calls of a plan that is followed to its end, each with its answer. -/
def Plan.asked (b : Backend σ) (s : Supply) : Plan α → World σ → List Asked
  | .done _, _ => []
  | .report _ next, w => next.asked b s w
  | .readClock next, w => (next (s.clock w.readings)).asked b s { w with readings := w.readings + 1 }
  | .drawId next, w => (next (s.ids w.draws)).asked b s { w with draws := w.draws + 1 }
  | .call c next, w =>
    ⟨c, (b.perform c w.store).1⟩ ::
      (next (b.perform c w.store).1).asked b s { w with store := (b.perform c w.store).2 }
  | .ping next, w => (next (b.ping w.store)).asked b s w

/-- The calls of a run are those that it asks. -/
theorem Plan.map_call_asked (b : Backend σ) (s : Supply) (p : Plan α) (w : World σ) :
    (p.asked b s w).map Asked.call = (p.run b s w).calls := by
  induction p generalizing w with
  | done x => rfl
  | report event q ih => exact ih w
  | readClock q ih => exact ih _ _
  | drawId q ih => exact ih _ _
  | call c q ih => exact congrArg (c :: ·) (ih _ _)
  | ping q ih => exact ih _ _

/-- A call of a run is answered by the backend. -/
theorem Plan.exists_perform_of_mem_asked {b : Backend σ} {s : Supply} {p : Plan α} {w : World σ}
    {a : Asked} (h : a ∈ p.asked b s w) : ∃ x, a.answer = (b.perform a.call x).1 := by
  induction p generalizing w with
  | done x => cases h
  | report event q ih => exact ih h
  | readClock q ih => exact ih _ h
  | drawId q ih => exact ih _ h
  | call c q ih =>
    rcases List.mem_cons.1 h with rfl | h
    · exact ⟨w.store, rfl⟩
    · exact ih _ h
  | ping q ih => exact ih _ h

/-- Whatever is answered on the way, every storage call of a plan satisfies `P` together with the
events that have been reported by then, the first ones being given, and with what the plan goes on
with. -/
def Plan.Calls (P : List Event → (c : Call) → (Except Failure c.Answer → Plan α) → Prop) :
    List Event → Plan α → Prop
  | _, .done _ => True
  | es, .report event next => next.Calls P (es ++ [event])
  | es, .readClock next => ∀ now, (next now).Calls P es
  | es, .drawId next => ∀ id, (next id).Calls P es
  | es, .call c next => P es c next ∧ ∀ answer, (next answer).Calls P es
  | es, .ping next => ∀ answer, (next answer).Calls P es

namespace Plan.Calls

variable {P : List Event → (c : Call) → (Except Failure c.Answer → Plan α) → Prop}
  {Q : List Event → (c : Call) → (Except Failure c.Answer → Plan β) → Prop}
  {p : Plan α} {es : List Event} {b : Backend σ} {s : Supply} {w : World σ}

/-- A plan that has come to its end makes no calls. -/
theorem done {x : α} : (Plan.done x).Calls P es := trivial

/-- What holds of the calls of a plan holds of them in a weaker form. -/
theorem mono {R : List Event → (c : Call) → (Except Failure c.Answer → Plan α) → Prop}
    (h : p.Calls P es) (imp : ∀ es c next, P es c next → R es c next) : p.Calls R es := by
  induction p generalizing es with
  | done x => exact trivial
  | report event q ih => exact ih h
  | readClock q ih => exact fun now => ih now (h now)
  | drawId q ih => exact fun id => ih id (h id)
  | call c q ih => exact ⟨imp es c q h.1, fun answer => ih answer (h.2 answer)⟩
  | ping q ih => exact fun answer => ih answer (h answer)

/-- Reports are no calls. -/
theorem reportAll {events : List Event} (h : ∀ es, p.Calls P es) :
    (Plan.reportAll events p).Calls P es := by
  induction events generalizing es with
  | nil => exact h es
  | cons event events ih => exact ih

/-- A plan and what it goes on with make such calls if both do. -/
theorem bind {f : α → Plan β} (h : p.Calls P es)
    (step : ∀ es c next, P es c next → Q es c fun answer => (next answer).bind f)
    (rest : ∀ es x, (f x).Calls Q es) : (p.bind f).Calls Q es := by
  induction p generalizing es with
  | done x => exact rest es x
  | report event q ih => exact ih h
  | readClock q ih => exact fun now => ih now (h now)
  | drawId q ih => exact fun id => ih id (h id)
  | call c q ih => exact ⟨step es c q h.1, fun answer => ih answer (h.2 answer)⟩
  | ping q ih => exact fun answer => ih answer (h answer)

/-- Wherever a run makes a call, the call is one of the plan, and the rest of the run is what the plan
goes on with on the answer. -/
theorem exists_run (h : p.Calls P es) {pre post : List Asked} {c : Call}
    {answer : Except Failure c.Answer} (ha : p.asked b s w = pre ++ ⟨c, answer⟩ :: post) :
    ∃ before next w', P before c next ∧ post = (next answer).asked b s w' ∧
      (p.run b s w).value = ((next answer).run b s w').value ∧
      es ++ (p.run b s w).events = before ++ ((next answer).run b s w').events := by
  -- The events given grow by each report that is passed, so that they are those before the call.
  induction p generalizing es w pre with
  | done x =>
    rw [Plan.asked] at ha
    simp at ha
  | report event q ih =>
    obtain ⟨before, next, w', hP, hpost, hvalue, hevents⟩ := ih h ha
    refine ⟨before, next, w', hP, hpost, hvalue, ?_⟩
    rw [← hevents, List.append_assoc]
    rfl
  | readClock q ih => exact ih _ (h _) ha
  | drawId q ih => exact ih _ (h _) ha
  | call d q ih =>
    cases pre with
    | nil =>
      obtain ⟨hhead, hpost⟩ := List.cons.inj ha
      cases hhead
      exact ⟨es, q, _, h.1, hpost.symm, rfl, rfl⟩
    | cons a pre => exact ih _ (h.2 _) (List.cons.inj ha).2
  | ping q ih => exact ih _ (h _) ha

/-- Every call of a run is one of the plan. -/
theorem run (h : p.Calls P es) {c : Call} (hc : c ∈ (p.run b s w).calls) :
    ∃ before next, P before c next := by
  rw [← Plan.map_call_asked] at hc
  obtain ⟨⟨c, answer⟩, ha, rfl⟩ := List.mem_map.1 hc
  obtain ⟨pre, post, hsplit⟩ := List.append_of_mem ha
  obtain ⟨before, next, -, hP, -⟩ := h.exists_run hsplit
  exact ⟨before, next, hP⟩

end Plan.Calls

end Discography.Api
