import Mathlib.Algebra.Group.Int.Defs
import Discography.Proofs.CallAnswers
import Discography.Proofs.ErrorReports
import Discography.Proofs.PageReading

/-!
# The storage calls of the endpoints

What is to be known of a storage call that an endpoint makes is said here once, for all endpoints and
whatever has been answered before: its integers are in range, nothing has been reported before it, and
how the endpoint goes on if it fails.

* `Call.InRange` — the integers of a call.
* `about?` — the album that a call is about.
* `Proper` — what holds of each call of an endpoint; `calls_planOf` shows it for every endpoint.
* `Answering` — the same for a request; `calls_respond`.
-/

set_option autoImplicit false

namespace Discography

namespace Store

/-- The integers of a call are within 64 bits; the window of a listing begins at zero or later and has
room for 1 to 50 albums. -/
def Call.InRange : Call → Prop
  | .insert a | .update a => -2 ^ 63 ≤ a.price ∧ a.price ≤ 2 ^ 63 - 1
  | .findAll offset limit => (0 ≤ offset ∧ offset ≤ 2 ^ 63 - 1) ∧ 1 ≤ limit ∧ limit ≤ 50
  | .findOne _ | .remove _ => True

/-- The id that a call looks for or removes. -/
def Call.sought? : Call → Option AlbumId
  | .findOne id | .remove id => some id
  | _ => none

end Store

namespace Api

open Discography.Log Discography.Store Discography.Http

/-! ## Stages that make no calls -/

section Stages

variable {α β : Type} {ctx : Context} {es : List Event}
  {P : List Event → (c : Call) → (Except Failure c.Answer → Plan (Except Failure β)) → Prop}
  {r : Except Failure α} {next : α → Plan (Except Failure β)} {p : Plan (Except Failure β)}

theorem calls_ifRead (h : ∀ x, r = .ok x → (next x).Calls P es) : (ifRead r next).Calls P es := by
  cases r with
  | ok x => exact h x rfl
  | error f => exact trivial

theorem calls_ifOpen (h : p.Calls P es) : (ctx.ifOpen p).Calls P es := by
  unfold Context.ifOpen
  split
  · exact h
  · exact trivial

theorem calls_ifValid {draft : Draft} (h : p.Calls P es) : (ctx.ifValid draft p).Calls P es := by
  unfold Context.ifValid
  split
  · exact h
  · exact trivial

theorem calls_ifPresent {f : Failure} {found : Option α} (h : ∀ x, (next x).Calls P es) :
    (ifPresent f found next).Calls P es := by
  cases found with
  | some x => exact h x
  | none => exact trivial

/-- An endpoint goes on to further calls only with an answer that is no failure. -/
theorem calls_resume {c : Call} {about : Option AlbumId} (h : ∀ x, (next x).Calls P es)
    (answer : Except Failure α) : (resume c about next answer).Calls P es := by
  cases answer with
  | ok x => exact h x
  | error f =>
    by_cases hf : f = .notFound
    · subst hf
      exact trivial
    · rw [resume_error c about next hf]
      exact trivial

end Stages

/-! ## Calls of endpoints -/

/-- The album that a call on behalf of a request is about; a listing is about none. An album is changed
and removed under the id that the request names, and added under its own. -/
def about? (r : Request) : Call → Option AlbumId
  | .insert a => some a.id
  | .findAll _ _ => none
  | .findOne _ | .update _ | .remove _ => named? r

/-- What an endpoint comes to if no album is found: a listing is empty, and anything else fails. -/
def missingAlbum (c : Call) : Except Failure Response :=
  if c.isListing then .ok (.json 200 (.array [])) else .error .notFound

/-- A call that an endpoint makes for a request, after the events `es` and with what the endpoint goes
on with. Nothing has been reported before, its integers are in range, and it is about an album unless
it is a listing, about the one that it looks for or removes if it does so. A failure is reported and
becomes an internal error, unless no album was found. -/
structure Proper (r : Request) (es : List Event) (c : Call)
    (next : Except Failure c.Answer → Plan (Except Failure Response)) : Prop where
  unreported : es = []
  inRange : c.InRange
  about : (about? r c).isSome = !c.isListing
  own : ∀ u, c.sought? = some u → about? r c = some u
  failed : ∀ f, f ≠ .notFound → next (.error f) =
    .report (callFailed c (about? r c) f) (.done (.error (.internal c.description)))
  missing : next (.error .notFound) = .done (missingAlbum c)

section Endpoints

variable {ctx : Context} {r : Request} {id : AlbumId}

/-- A call about one album goes on in the usual way. -/
theorem proper_resume {c : Call} {next : c.Answer → Plan (Except Failure Response)}
    (hrange : c.InRange) (habout : about? r c = some id) (hlisting : c.isListing = false)
    (hsought : c.sought? = none ∨ c.sought? = some id) :
    Proper r [] c (resume c (some id) next) := by
  refine ⟨rfl, hrange, ?_, ?_, ?_, ?_⟩
  · rw [habout, hlisting]
    rfl
  · intro u hu
    rcases hsought with hnone | hsome
    · rw [hnone] at hu
      cases hu
    · rw [habout, ← hsome, hu]
  · intro f hf
    rw [habout]
    exact resume_error c (some id) next hf
  · unfold missingAlbum
    rw [hlisting]
    rfl

/-- The price of a draft that has been read is in range. -/
theorem price_inRange {body : ByteArray} {d : Draft} (h : Draft.parse body = .ok d) :
    -2 ^ 63 ≤ d.price ∧ d.price ≤ 2 ^ 63 - 1 := by
  have hfits : int64Min ≤ d.price ∧ d.price ≤ int64Max := of_decide_eq_true (fitsInt64_of_parse h)
  unfold int64Min int64Max at hfits
  omega

theorem calls_createAlbum (r : Request) (body : ByteArray) :
    (planOf ctx (.createAlbum body)).Calls (Proper r) [] := by
  rw [planOf_createAlbum]
  refine calls_ifRead fun draft hr => calls_ifOpen (calls_ifValid ?_)
  intro now id
  refine ⟨proper_resume (price_inRange hr) rfl rfl (.inl rfl), ?_⟩
  exact calls_resume fun _ => .done

theorem calls_listAlbums (r : Request) (query : String) :
    (planOf ctx (.listAlbums query)).Calls (Proper r) [] := by
  rw [planOf_listAlbums]
  refine calls_ifOpen (calls_ifRead fun page hq => ⟨?_, ?_⟩)
  · obtain ⟨hstart, hoffset, hpos, hmax⟩ := Page.bounds_of_parse hq
    unfold int64Max at hoffset
    unfold maxPageSize at hmax
    refine ⟨rfl, ⟨⟨hstart, ?_⟩, hpos, hmax⟩, rfl, ?_, ?_, rfl⟩
    · omega
    · intro u hu
      cases hu
    · intro f hf
      cases f <;> first | rfl | exact absurd rfl hf
  · intro answer
    cases answer with
    | ok found => exact trivial
    | error f => cases f <;> exact trivial

theorem calls_getAlbum {raw : String} (hs : segment? r = some raw) :
    (planOf ctx (.getAlbum raw)).Calls (Proper r) [] := by
  rw [planOf_getAlbum]
  refine calls_ifRead fun id hi => calls_ifOpen ⟨?_, ?_⟩
  · exact proper_resume trivial (named?_of_parse hs hi) rfl (.inr rfl)
  · exact calls_resume fun found => calls_ifPresent fun a => .done

theorem calls_updateAlbum {raw : String} {body : ByteArray} (hs : segment? r = some raw) :
    (planOf ctx (.updateAlbum raw body)).Calls (Proper r) [] := by
  rw [planOf_updateAlbum]
  refine calls_ifRead fun id hi => calls_ifRead fun draft hr => calls_ifOpen (calls_ifValid ⟨?_, ?_⟩)
  · exact proper_resume trivial (named?_of_parse hs hi) rfl (.inr rfl)
  · refine calls_resume fun found => calls_ifPresent fun a => ?_
    intro now
    refine ⟨proper_resume (price_inRange hr) (named?_of_parse hs hi) rfl (.inl rfl), ?_⟩
    exact calls_resume fun _ => .done

theorem calls_deleteAlbum {raw : String} (hs : segment? r = some raw) :
    (planOf ctx (.deleteAlbum raw)).Calls (Proper r) [] := by
  rw [planOf_deleteAlbum]
  refine calls_ifRead fun id hi => calls_ifOpen ⟨?_, ?_⟩
  · exact proper_resume trivial (named?_of_parse hs hi) rfl (.inr rfl)
  · refine calls_resume fun found => ⟨?_, ?_⟩
    · exact proper_resume trivial (named?_of_parse hs hi) rfl (.inr rfl)
    · exact calls_resume fun _ => calls_ifPresent fun a => .done

/-- **Every storage call of every endpoint is proper.** -/
theorem calls_planOf {e : Endpoint} (h : find (routes r) r.method r.path = .endpoint e) :
    (planOf ctx e).Calls (Proper r) [] := by
  have hreaches := reaches_of_find h
  cases e with
  | health => exact trivial
  | readiness =>
    show (readiness ctx).Calls (Proper r) []
    unfold readiness
    split
    · exact fun answer => .reportAll fun _ => .done
    · exact trivial
  | createAlbum body => exact calls_createAlbum r body
  | listAlbums query => exact calls_listAlbums r query
  | getAlbum raw => exact calls_getAlbum hreaches.2
  | updateAlbum raw body => exact calls_updateAlbum hreaches.2.1
  | deleteAlbum raw => exact calls_deleteAlbum hreaches.2

end Endpoints

/-! ## Calls of requests -/

/-- A call that is made for a request, after the events `es` and with what the request goes on with. A
failure is reported once and answered as an internal error, unless no album was found: then a listing
is answered as empty, and anything else as not found, without a report of an error. -/
structure Answering (r : Request) (es : List Event) (c : Call)
    (next : Except Failure c.Answer → Plan Response) : Prop where
  unreported : es = []
  inRange : c.InRange
  about : (about? r c).isSome = !c.isListing
  own : ∀ u, c.sought? = some u → about? r c = some u
  failed : ∀ f, f ≠ .notFound → next (.error f) =
    .report (callFailed c (about? r c) f)
      (.reportAll (reply r (.internal c.description)).2 (.done (.message 500 Failure.internalMessage)))
  missing : next (.error .notFound) =
    if c.isListing then .done (.json 200 (.array []))
    else .reportAll (reply r .notFound).2 (.done (.message 404 "album not found"))

theorem Proper.answering {r : Request} {es : List Event} {c : Call}
    {next : Except Failure c.Answer → Plan (Except Failure Response)} (h : Proper r es c next) :
    Answering r es c fun answer => (next answer).bind (replying r) := by
  refine ⟨h.unreported, h.inRange, h.about, h.own, ?_, ?_⟩
  · intro f hf
    rw [h.failed f hf]
    rfl
  · rw [h.missing]
    unfold missingAlbum
    split
    · rfl
    · rfl

/-- **Every storage call of every request is answered in the same way.** -/
theorem calls_respond (ctx : Context) (r : Request) : (respond ctx r).Calls (Answering r) [] := by
  by_cases h : ∃ e, find (routes r) r.method r.path = .endpoint e
  · obtain ⟨e, he⟩ := h
    rw [respond_of_find he]
    refine (calls_planOf he).bind (fun _ _ _ hproper => hproper.answering) ?_
    intro es x
    cases x with
    | ok response => exact trivial
    | error f => exact .reportAll fun _ => trivial
  · rw [respond_of_not_find ctx fun e he => h ⟨e, he⟩]
    exact trivial

end Api

end Discography
