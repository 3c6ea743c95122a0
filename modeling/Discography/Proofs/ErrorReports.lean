import Discography.Proofs.CallShapes
import Discography.Proofs.PageReading
import Discography.Proofs.Runs

/-!
# Errors are reported once

A failure may be reported where it arises, where it leaves the scope of a session, and where it is
answered. Over whatever storage and whatever it answers or fails with, a request that is answered as
an internal error has reported one error, and any other request none. The readiness probe is the
exception: it answers with another status while it reports that the database does not answer.

* `Plan.Returns` — what holds of a plan's value and of the errors that have been reported by then.
* `Plan.Returns.bind`, `Plan.Returns.run` — plans in turn, and plans that are followed to their end.
* `Concludes` — the ways in which an endpoint ends, each with the errors it has reported.
* `respondWithinScope_eq` — the scope of the session adds no report.
* `errors_match_status` — the errors that a request has reported are told by its status.
-/

set_option autoImplicit false

namespace Discography.Api

open Discography.Log Discography.Store Discography.Http

variable {α β σ : Type}

/-! ## Plans and the errors they report -/

/-- Whatever is answered on the way, a plan that begins after `n` errors ends with a value that
satisfies `P` together with the number of errors by then. -/
def Plan.Returns (P : Nat → α → Prop) : Nat → Plan α → Prop
  | n, .done x => P n x
  | n, .report event next => next.Returns P (n + errorCount [event])
  | n, .readClock next => ∀ now, (next now).Returns P n
  | n, .drawId next => ∀ id, (next id).Returns P n
  | n, .call _ next => ∀ answer, (next answer).Returns P n
  | n, .ping next => ∀ answer, (next answer).Returns P n

namespace Plan.Returns

variable {P : Nat → α → Prop} {Q : Nat → β → Prop} {p : Plan α} {n : Nat}

theorem bind {f : α → Plan β} (h : p.Returns P n)
    (next : ∀ m x, P m x → (f x).Returns Q m) : (p.bind f).Returns Q n := by
  induction p generalizing n with
  | done x => exact next n x h
  | report event q ih => exact ih h
  | readClock q ih => exact fun now => ih now (h now)
  | drawId q ih => exact fun id => ih id (h id)
  | call c q ih => exact fun answer => ih answer (h answer)
  | ping q ih => exact fun answer => ih answer (h answer)

theorem reportAll {events : List Event} (h : p.Returns P (n + errorCount events)) :
    (Plan.reportAll events p).Returns P n := by
  induction events generalizing n with
  | nil => exact h
  | cons event events ih =>
    refine ih (n := n + errorCount [event]) ?_
    rwa [Nat.add_assoc, ← errorCount_append]

/-- What a plan returns holds of every run, with the errors among the events of that run. -/
theorem run (h : p.Returns P n) (b : Backend σ) (s : Supply) (w : World σ) :
    P (n + errorCount (p.run b s w).events) (p.run b s w).value := by
  induction p generalizing n w with
  | done x => exact h
  | report event q ih =>
    have hq := ih h w
    rw [Nat.add_assoc, ← errorCount_append] at hq
    exact hq
  | readClock q ih => exact ih _ (h _) _
  | drawId q ih => exact ih _ (h _) _
  | call c q ih => exact ih _ (h _) _
  | ping q ih => exact ih _ (h _) _

end Plan.Returns

/-! ## How endpoints end -/

/-- How an endpoint ends, with the number of errors it has reported: with a response, with a failure
that is the client's, with an internal error that it has reported, or with a fault that it has not
foreseen. -/
inductive Concludes : Nat → Except Failure Response → Prop
  | served {response : Response} (status : response.status < 500) : Concludes 0 (.ok response)
  | refused {f : Failure} {terms : Failure.Terms} (terms_eq : f.terms? = some terms)
      (status : terms.status < 500) : Concludes 0 (.error f)
  | reported {operation : String} : Concludes 1 (.error (.internal operation))
  | unforeseen {kind : FaultKind} {message : String} : Concludes 0 (.error (.fault kind message))

theorem concludes_malformed (message : String) : Concludes 0 (.error (.malformed message)) :=
  .refused rfl (show (400 : Int) < 500 by decide)

section Stages

variable {ctx : Context} {r : Except Failure α} {next : α → Plan (Except Failure Response)}
  {p : Plan (Except Failure Response)}

theorem returns_json {status : Int} (body : Json.Value) (h : status < 500) :
    (Plan.done (.ok (Response.json status body))).Returns Concludes 0 :=
  Concludes.served h

theorem returns_ifRead (hr : ∀ f, r = .error f → Concludes 0 (.error f))
    (h : ∀ x, r = .ok x → (next x).Returns Concludes 0) : (ifRead r next).Returns Concludes 0 := by
  cases r with
  | ok x => exact h x rfl
  | error f => exact hr f rfl

theorem returns_ifOpen (h : p.Returns Concludes 0) : (ctx.ifOpen p).Returns Concludes 0 := by
  unfold Context.ifOpen
  split
  · exact h
  · exact .unforeseen

theorem returns_ifValid {draft : Draft} (h : p.Returns Concludes 0) :
    (ctx.ifValid draft p).Returns Concludes 0 := by
  unfold Context.ifValid
  split
  · exact h
  · exact .refused rfl (show (400 : Int) < 500 by decide)

/-- A storage call that fails is reported, unless no album was found; the endpoint goes on with any
answer, even if there is nothing in it. -/
theorem returns_resume {c : Call} {about : Option AlbumId} (h : ∀ x, (next x).Returns Concludes 0)
    (answer : Except Failure α) : (resume c about next answer).Returns Concludes 0 := by
  cases answer with
  | ok x => exact h x
  | error f =>
    by_cases hf : f = .notFound
    · subst hf
      exact .refused rfl (show (404 : Int) < 500 by decide)
    · rw [resume_error c about next hf]
      exact .reported

theorem returns_ifPresent {kind : FaultKind} {message : String} {found : Option α}
    (h : ∀ x, (next x).Returns Concludes 0) :
    (ifPresent (.fault kind message) found next).Returns Concludes 0 := by
  cases found with
  | some x => exact h x
  | none => exact .unforeseen

end Stages

/-! ## The endpoints -/

theorem concludes_of_parse_draft {body : ByteArray} {f : Failure}
    (h : Draft.parse body = .error f) : Concludes 0 (.error f) := by
  rw [parse_draft_error h]
  exact concludes_malformed _

theorem concludes_of_parse_id {raw : Option String} {f : Failure}
    (h : AlbumId.parse raw = .error f) : Concludes 0 (.error f) := by
  rw [parse_id_error h]
  exact concludes_malformed _

/-- A numeral with too many digits is the one fault that reading a page comes to. -/
theorem concludes_of_parse_page {size number : Option String} {f : Failure}
    (h : Page.parse size number = .error f) : Concludes 0 (.error f) := by
  rcases Page.parse_cases size number with ⟨p, hp⟩ | ⟨message, hp⟩ | ⟨count, hover⟩
  · rw [hp] at h
    cases h
  · rw [hp] at h
    cases h
    exact concludes_malformed message
  · rw [Page.parse_of_unconverted hover] at h
    cases h
    exact .unforeseen

theorem returns_createAlbum (ctx : Context) (body : ByteArray) :
    (planOf ctx (.createAlbum body)).Returns Concludes 0 := by
  rw [planOf_createAlbum]
  refine returns_ifRead (fun f => concludes_of_parse_draft) fun draft _ => ?_
  refine returns_ifOpen (returns_ifValid ?_)
  intro now id answer
  exact returns_resume (fun _ => returns_json _ (by decide)) answer

theorem returns_listAlbums (ctx : Context) (query : String) :
    (planOf ctx (.listAlbums query)).Returns Concludes 0 := by
  rw [planOf_listAlbums]
  refine returns_ifOpen (returns_ifRead (fun f => concludes_of_parse_page) fun page _ => ?_)
  intro answer
  cases answer with
  | ok found =>
    cases found with
    | some albums => exact returns_json _ (by decide)
    | none => exact .unforeseen
  | error f =>
    by_cases hf : f = .notFound
    · subst hf
      exact returns_json _ (by decide)
    · cases f <;> first | exact .reported | exact absurd rfl hf

theorem returns_getAlbum (ctx : Context) (raw : String) :
    (planOf ctx (.getAlbum raw)).Returns Concludes 0 := by
  rw [planOf_getAlbum]
  refine returns_ifRead (fun f => concludes_of_parse_id) fun id _ => returns_ifOpen ?_
  intro answer
  exact returns_resume (fun found => returns_ifPresent fun a => returns_json _ (by decide)) answer

theorem returns_updateAlbum (ctx : Context) (raw : String) (body : ByteArray) :
    (planOf ctx (.updateAlbum raw body)).Returns Concludes 0 := by
  rw [planOf_updateAlbum]
  refine returns_ifRead (fun f => concludes_of_parse_id) fun id _ => ?_
  refine returns_ifRead (fun f => concludes_of_parse_draft) fun draft _ => ?_
  refine returns_ifOpen (returns_ifValid ?_)
  intro answer
  refine returns_resume (fun found => returns_ifPresent fun a => ?_) answer
  intro now answer
  exact returns_resume (fun _ => returns_json _ (by decide)) answer

theorem returns_deleteAlbum (ctx : Context) (raw : String) :
    (planOf ctx (.deleteAlbum raw)).Returns Concludes 0 := by
  rw [planOf_deleteAlbum]
  refine returns_ifRead (fun f => concludes_of_parse_id) fun id _ => returns_ifOpen ?_
  intro answer
  refine returns_resume (fun found => ?_) answer
  intro answer
  exact returns_resume (fun _ => returns_ifPresent fun a => returns_json _ (by decide)) answer

/-- **Every endpoint but the readiness probe concludes in one of these ways.** -/
theorem returns_planOf (ctx : Context) {e : Endpoint} (he : e ≠ .readiness) :
    (planOf ctx e).Returns Concludes 0 := by
  cases e with
  | health => exact returns_json _ (by decide)
  | readiness => exact absurd rfl he
  | createAlbum body => exact returns_createAlbum ctx body
  | listAlbums query => exact returns_listAlbums ctx query
  | getAlbum raw => exact returns_getAlbum ctx raw
  | updateAlbum raw body => exact returns_updateAlbum ctx raw body
  | deleteAlbum raw => exact returns_deleteAlbum ctx raw

/-! ## The scope of the session -/

/-- No failure of the database layer leaves an endpoint, so that its scope has nothing to convert. -/
theorem Concludes.close_eq {n : Nat} {x : Except Failure Response} (h : Concludes n x) :
    close x = (x, []) := by
  cases h with
  | served status => rfl
  | refused terms_eq status =>
    rename_i f terms
    cases f <;> first | rfl | cases terms_eq
  | reported => rfl
  | unforeseen => rfl

theorem withinScope_eq {p : Plan (Except Failure Response)} {n : Nat}
    (h : p.Returns Concludes n) : withinScope p = p := by
  unfold withinScope
  induction p generalizing n with
  | done x =>
    show Plan.reportAll _ _ = _
    rw [Concludes.close_eq h]
    rfl
  | report event q ih => exact congrArg (Plan.report event) (ih h)
  | readClock q ih => exact congrArg Plan.readClock (funext fun now => ih now (h now))
  | drawId q ih => exact congrArg Plan.drawId (funext fun id => ih id (h id))
  | call c q ih => exact congrArg (Plan.call c) (funext fun answer => ih answer (h answer))
  | ping q ih => exact congrArg Plan.ping (funext fun answer => ih answer (h answer))

/-- The readiness probe fails with nothing, so that the scope has nothing to convert. -/
theorem withinScope_readiness (ctx : Context) : withinScope (readiness ctx) = readiness ctx := by
  unfold readiness
  split
  · refine congrArg Plan.ping (funext fun answer => ?_)
    exact Plan.reportAll_bind (health answer).2 _ _
  · rfl

/-! ## From endpoints to responses -/

/-- A response that goes with a number of errors: one if it is an internal error, and none otherwise.
A response to a failure of the service shows nothing of it. -/
structure Tells (n : Nat) (response : Response) : Prop where
  errors : n = if response.status = 500 then 1 else 0
  hidden : 500 ≤ response.status → response = .message 500 Failure.internalMessage

theorem Tells.of_lt {response : Response} (h : response.status < 500) :
    Tells 0 response := by
  refine ⟨?_, fun hs => absurd hs (by omega)⟩
  rw [if_neg (by omega)]

theorem Tells.internal : Tells 1 (.message 500 Failure.internalMessage) :=
  ⟨rfl, fun _ => rfl⟩

/-- However an endpoint concludes, it is answered with a response that goes with its errors. -/
theorem returns_replying (r : Request) {n : Nat} {x : Except Failure Response}
    (h : Concludes n x) : (replying r x).Returns Tells n := by
  cases h with
  | served status => exact Tells.of_lt status
  | refused terms_eq status =>
    refine .reportAll ?_
    unfold reply
    rw [terms_eq]
    exact Tells.of_lt status
  | reported => exact .reportAll Tells.internal
  | unforeseen => exact .reportAll Tells.internal

theorem tells_unserved {r : Request} (h : ∀ e, find (routes r) r.method r.path ≠ .endpoint e) :
    Tells 0 (unserved r (find (routes r) r.method r.path)) := by
  refine .of_lt ?_
  cases hf : find (routes r) r.method r.path with
  | endpoint e => exact absurd hf (h e)
  | notAllowed methods => exact (show (405 : Int) < 500 by decide)
  | redirect path => exact (show (307 : Int) < 500 by decide)
  | unknown => exact (show (404 : Int) < 500 by decide)

/-- A request that reaches the readiness probe, whose path may be followed by one line feed. -/
def AsksReadiness (r : Request) : Prop :=
  r.method = "GET" ∧ (r.path = "/health/ready" ∨ r.path = "/health/ready" ++ "\n")

theorem asksReadiness_of_find {r : Request}
    (h : find (routes r) r.method r.path = .endpoint .readiness) : AsksReadiness r := by
  have hfind := find_endpoint h
  obtain ⟨route, hr, he⟩ := List.exists_of_findSome?_eq_some hfind
  simp only [Option.ite_none_right_eq_some, Option.map_eq_some_iff] at he
  obtain ⟨hm, raw, hc, htarget⟩ := he
  simp only [routes, List.mem_cons, List.not_mem_nil, or_false] at hr
  rcases hr with rfl | rfl | rfl | rfl | rfl | rfl | rfl
  case inr.inl =>
    refine ⟨by simpa using hm, ?_⟩
    simp only [Pattern.capture?, Option.ite_none_right_eq_some] at hc
    exact hc.1
  all_goals cases htarget

/-- **Every request but one for readiness is answered with a response that goes with its errors.** -/
theorem returns_respond (ctx : Context) {r : Request} (hr : ¬ AsksReadiness r) :
    (respond ctx r).Returns Tells 0 := by
  by_cases h : ∃ e, find (routes r) r.method r.path = .endpoint e
  · obtain ⟨e, he⟩ := h
    have hne : e ≠ .readiness := by
      rintro rfl
      exact hr (asksReadiness_of_find he)
    rw [respond_of_find he]
    exact (returns_planOf ctx hne).bind fun m x => returns_replying r
  · have hnone : ∀ e, find (routes r) r.method r.path ≠ .endpoint e := fun e he => h ⟨e, he⟩
    rw [respond_of_not_find ctx hnone]
    exact tells_unserved hnone

/-- A request is served alike with the scope of the session around its endpoint and without it. -/
theorem respondWithinScope_eq (ctx : Context) (r : Request) :
    respondWithinScope ctx r = respond ctx r := by
  unfold respondWithinScope respond
  cases h : find (routes r) r.method r.path with
  | endpoint e =>
    dsimp only
    by_cases he : e = .readiness
    · subst he
      rw [show planOf ctx .readiness = readiness ctx from rfl, withinScope_readiness]
    · rw [withinScope_eq (returns_planOf ctx he)]
  | notAllowed methods => rfl
  | redirect path => rfl
  | unknown => rfl

/-- **The status of a response tells how many errors were reported.** Whatever answers the storage
calls, with an album, with nothing or with any failure, whether a database is open or not, and
whatever the validator, the ids and the clock say: a request that does not ask for readiness reports
one error if it is answered as an internal error, and none otherwise. The scope of the session around
its endpoint adds no report and changes no answer. -/
theorem errors_match_status (b : Backend σ) (s : Supply) (ctx : Context) (r : Request)
    (w : World σ) (hr : ¬ AsksReadiness r) :
    respondWithinScope ctx r = respond ctx r ∧
      errorCount (serve b s ctx r w).events =
        if (serve b s ctx r w).value.status = 500 then 1 else 0 := by
  refine ⟨respondWithinScope_eq ctx r, ?_⟩
  have htells := (returns_respond ctx hr).run b s w
  rw [Nat.zero_add] at htells
  exact htells.errors

/-- Adding an album where there is no table. -/
theorem errors_match_status_tableless :
    ¬ AsksReadiness adding ∧
      (serve .database standstill catalog adding ⟨.tableless, 0, 0⟩).value.status = 500 ∧
      errorCount (serve .database standstill catalog adding ⟨.tableless, 0, 0⟩).events = 1 := by
  have hr : ¬ AsksReadiness adding := fun h => absurd h.1 (by decide)
  have hstatus :
      (serve .database standstill catalog adding ⟨.tableless, 0, 0⟩).value.status = 500 := by
    decide +kernel
  obtain ⟨-, herrors⟩ :=
    errors_match_status .database standstill catalog adding ⟨.tableless, 0, 0⟩ hr
  rw [if_pos hstatus] at herrors
  exact ⟨hr, hstatus, herrors⟩

/-- A request that reaches the readiness probe by a path with a line feed at its end reports an error
and is answered with another status than an internal error. -/
theorem readiness_with_line_feed_reports :
    let r : Request := ⟨"GET", "/health/ready\n", "", .empty⟩
    ¬ (r.method = "GET" ∧ r.path = "/health/ready") ∧
      (serve .database standstill catalog r ⟨.unopenable, 0, 0⟩).value.status = 503 ∧
      errorCount (serve .database standstill catalog r ⟨.unopenable, 0, 0⟩).events = 1 := by
  decide +kernel

end Discography.Api
