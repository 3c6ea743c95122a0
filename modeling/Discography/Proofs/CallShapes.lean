import Discography.Proofs.Interleaving
import Discography.Proofs.Outcomes

/-!
# The storage calls of a request

A request makes no storage call, one, or two. It makes two only if it changes or removes an album,
which it looks for first; what it does then depends on the album that was found.

* `Changes`, `Removes` — the plans that make two calls, after the album has been looked for.
* `Shape` — the plans of requests by their calls, and `shape_respond`, which gives every request one.
-/

set_option autoImplicit false

namespace Discography.Api

open Discography.Store Discography.Http

/-! ## Shapes of plans -/

/-- A plan that changes an album: what it goes on with after the album has been looked for, and
after the change. -/
structure Changes (k : Task) (u : AlbumId) (draft : Draft)
    (next : Except Failure (Option Album) → Plan Response)
    (after : Album → Except Failure Unit → Plan Response) (missing broken : Response) : Prop where
  fits : fitsInt64 draft.price = true
  absent : (next (.error .notFound)).advance k = .done missing
  found : ∀ a, (next (.ok (some a))).advance k = .call (.update (a.withDraft draft k.now)) (after a)
  gone : ∀ a, (after a (.error .notFound)).advance k = .done missing
  failed : ∀ a, (after a (.error .dateOutOfRange)).advance k = .done broken
  changed : ∀ a, (after a (.ok ())).advance k = .done (.json 200 (a.withDraft draft k.now).response)

/-- A plan that removes an album: what it goes on with after the album has been looked for, and
after the removal. -/
structure Removes (k : Task) (u : AlbumId) (next : Except Failure (Option Album) → Plan Response)
    (after : Album → Except Failure Unit → Plan Response) (missing : Response) : Prop where
  method : k.request.method = "DELETE"
  absent : (next (.error .notFound)).advance k = .done missing
  found : ∀ a, (next (.ok (some a))).advance k = .call (.remove u) (after a)
  gone : ∀ a, (after a (.error .notFound)).advance k = .done missing
  removed : ∀ a, (after a (.ok ())).advance k = .done (.json 200 a.response)

/-- What the plan of a request advances to first. -/
inductive Shape (ctx : Context) (k : Task) : Plan Response → Prop
  /-- No storage call. -/
  | silent {x : Response} : Shape ctx k (.done x)
  /-- One call, which only reads. -/
  | reads {c : Call} {next : Except Failure c.Answer → Plan Response}
      (same : ∀ t, ((Database.table t).perform c).2 = .table t)
      (ends : ∀ answer, ∃ x, (next answer).advance k = .done x) : Shape ctx k (.call c next)
  /-- One call, which adds an album under the id that was drawn. -/
  | adds {draft : Draft} {next : Except Failure Unit → Plan Response} (drawn : k.Draws ctx)
      (ends : ∀ answer, ∃ x, (next answer).advance k = .done x) :
      Shape ctx k (.call (.insert (Album.create k.id draft k.now)) next)
  /-- Two calls, of which the second changes an album. -/
  | changes {u : AlbumId} {draft : Draft} {next : Except Failure (Option Album) → Plan Response}
      {after : Album → Except Failure Unit → Plan Response} {missing broken : Response}
      (h : Changes k u draft next after missing broken) : Shape ctx k (.call (.findOne u) next)
  /-- Two calls, of which the second removes an album. -/
  | removes {u : AlbumId} {next : Except Failure (Option Album) → Plan Response}
      {after : Album → Except Failure Unit → Plan Response} {missing : Response}
      (h : Removes k u next after missing) : Shape ctx k (.call (.findOne u) next)

/-! ## The end of a plan -/

/-- How a request goes on with what its endpoint comes to. -/
def replying (r : Request) : Except Failure Response → Plan Response
  | .ok response => .done response
  | .error f => .reportAll (reply r f).2 (.done (reply r f).1)

theorem respond_of_find {ctx : Context} {r : Request} {e : Endpoint}
    (h : find (routes r) r.method r.path = .endpoint e) :
    respond ctx r = (planOf ctx e).bind (replying r) := by
  unfold respond
  rw [h]
  rfl

section Ends

variable {α : Type} {k : Task} {r : Request}

/-- A failure leaves nothing to do but to report and to answer. -/
theorem advance_replying_error (f : Failure) :
    (replying r (.error f)).advance k = .done (reply r f).1 :=
  Plan.advance_reportAll k (reply r f).2 _

/-- A storage call that failed leaves nothing to do but to answer. -/
theorem advance_resume_error {c : Call} {about : Option AlbumId}
    {next : α → Plan (Except Failure Response)} (f : Failure) :
    ((resume c about next (.error f)).bind (replying r)).advance k =
      .done (answered r (.error (if f = .notFound then .notFound else .internal c.description))) := by
  by_cases h : f = .notFound
  · subst h
    rfl
  · rw [resume_error c about next h, if_neg h]
    rfl

theorem exists_advance_resume {c : Call} {about : Option AlbumId}
    {next : α → Plan (Except Failure Response)}
    (h : ∀ a, ∃ x, ((next a).bind (replying r)).advance k = .done x) (answer : Except Failure α) :
    ∃ x, ((resume c about next answer).bind (replying r)).advance k = .done x := by
  cases answer with
  | error f => exact ⟨_, advance_resume_error f⟩
  | ok a => exact h a

end Ends

/-! ## The shape of every request -/

section Shapes

variable {ctx : Context} {k : Task}

theorem shape_error (f : Failure) :
    Shape ctx k ((replying k.request (.error f)).advance k) := by
  rw [advance_replying_error]
  exact .silent

theorem Shape.ifOpen {p : Plan (Except Failure Response)}
    (h : Shape ctx k ((p.bind (replying k.request)).advance k)) :
    Shape ctx k (((ctx.ifOpen p).bind (replying k.request)).advance k) := by
  unfold Context.ifOpen
  split
  · exact h
  · exact .silent

theorem Shape.ifValid {p : Plan (Except Failure Response)} {draft : Draft}
    (h : Shape ctx k ((p.bind (replying k.request)).advance k)) :
    Shape ctx k (((ctx.ifValid draft p).bind (replying k.request)).advance k) := by
  unfold Context.ifValid
  split
  · exact h
  · exact .silent

theorem shape_listAlbums (query : String) :
    Shape ctx k (((planOf ctx (.listAlbums query)).bind (replying k.request)).advance k) := by
  rw [planOf_listAlbums]
  refine .ifOpen ?_
  cases Page.parse (lastParameter? query "page_size") (lastParameter? query "page_number") with
  | error f => exact shape_error f
  | ok page =>
    refine .reads (fun t => ?_) fun answer => ?_
    · rw [Database.perform_findAll]
    · cases answer with
      | ok found => cases found <;> exact ⟨_, rfl⟩
      | error f => cases f <;> exact ⟨_, rfl⟩

theorem shape_getAlbum (raw : String) :
    Shape ctx k (((planOf ctx (.getAlbum raw)).bind (replying k.request)).advance k) := by
  rw [planOf_getAlbum]
  cases AlbumId.parse (some raw) with
  | error f => exact shape_error f
  | ok id =>
    refine .ifOpen (.reads (fun t => ?_) (exists_advance_resume fun found => ?_))
    · rw [Database.perform_findOne]
    · cases found <;> exact ⟨_, rfl⟩

theorem shape_updateAlbum (raw : String) (body : ByteArray) :
    Shape ctx k (((planOf ctx (.updateAlbum raw body)).bind (replying k.request)).advance k) := by
  rw [planOf_updateAlbum]
  cases AlbumId.parse (some raw) with
  | error f => exact shape_error f
  | ok id =>
    cases hr : Draft.parse body with
    | error f => exact shape_error f
    | ok draft =>
      let after (a : Album) (answer : Except Failure Unit) : Plan Response :=
        (resume (.update (a.withDraft draft k.now)) (some id) (fun _ =>
          .done (.ok (.json 200 (a.withDraft draft k.now).response))) answer).bind
            (replying k.request)
      refine .ifOpen (.ifValid (.changes (?_ : Changes k id draft _ after
        (answered k.request (.error .notFound))
        (answered k.request (.error (.internal "updating album in the storage"))))))
      exact ⟨fitsInt64_of_parse hr, rfl, fun a => rfl, fun a => rfl, fun a => rfl, fun a => rfl⟩

/-- The plan of a removal over an open database, once the id has been read. -/
theorem removes_deleteAlbum {raw : String} {id : AlbumId} (hi : AlbumId.parse (some raw) = .ok id)
    (hd : ctx.hasDatabase = true) (hm : k.request.method = "DELETE") :
    ∃ next after,
      ((planOf ctx (.deleteAlbum raw)).bind (replying k.request)).advance k = .call (.findOne id) next ∧
        Removes k id next after (answered k.request (.error .notFound)) := by
  let after (a : Album) (answer : Except Failure Unit) : Plan Response :=
    (resume (.remove id) (some id) (fun _ => ifPresent nothingToShow (some a) fun a =>
      .done (.ok (.json 200 a.response))) answer).bind (replying k.request)
  rw [planOf_deleteAlbum, hi, ifRead_ok, Context.ifOpen, if_pos hd]
  exact ⟨_, after, rfl, hm, rfl, fun a => rfl, fun a => rfl, fun a => rfl⟩

theorem shape_deleteAlbum (raw : String) (hm : k.request.method = "DELETE") :
    Shape ctx k (((planOf ctx (.deleteAlbum raw)).bind (replying k.request)).advance k) := by
  cases hi : AlbumId.parse (some raw) with
  | error f =>
    rw [planOf_deleteAlbum, hi]
    exact shape_error f
  | ok id =>
    by_cases hd : ctx.hasDatabase = true
    · obtain ⟨next, after, hplan, hremoves⟩ := removes_deleteAlbum hi hd hm
      rw [hplan]
      exact .removes hremoves
    · rw [planOf_deleteAlbum, hi, ifRead_ok, Context.ifOpen, if_neg hd]
      exact .silent

theorem shape_createAlbum
    (h : find (routes k.request) k.request.method k.request.path =
      .endpoint (.createAlbum k.request.body)) :
    Shape ctx k (((planOf ctx (.createAlbum k.request.body)).bind (replying k.request)).advance k) := by
  have hdraws : k.Draws ctx ↔ (((planOf ctx (.createAlbum k.request.body)).bind
      (replying k.request)).draws k) = true := by
    rw [Task.Draws, respond_of_find h]
  rw [planOf_createAlbum] at hdraws ⊢
  cases hr : Draft.parse k.request.body with
  | error f => exact shape_error f
  | ok draft =>
    rw [hr, ifRead_ok, Context.ifOpen] at hdraws
    rw [ifRead_ok, Context.ifOpen]
    by_cases hopen : ctx.hasDatabase = true
    · rw [if_pos hopen, Context.ifValid] at hdraws ⊢
      by_cases hvalid : (ctx.validator draft).isEmpty = true
      · rw [if_pos hvalid] at hdraws ⊢
        exact .adds (hdraws.2 rfl) (exists_advance_resume fun _ => ⟨_, rfl⟩)
      · rw [if_neg hvalid]
        exact .silent
    · rw [if_neg hopen]
      exact .silent

/-- **Every request makes no storage call, reads once, adds once, or looks for an album and then
changes or removes it.** -/
theorem shape_respond (ctx : Context) (k : Task) :
    Shape ctx k ((respond ctx k.request).advance k) := by
  cases h : find (routes k.request) k.request.method k.request.path with
  | endpoint e =>
    have hreaches := reaches_of_find h
    rw [respond_of_find h]
    cases e with
    | health => exact .silent
    | readiness =>
      show Shape ctx k (((readiness ctx).bind (replying k.request)).advance k)
      unfold readiness
      split
      · exact .silent
      · exact .silent
    | createAlbum body =>
      obtain ⟨-, rfl⟩ := hreaches
      exact shape_createAlbum h
    | listAlbums query => exact shape_listAlbums query
    | getAlbum raw => exact shape_getAlbum raw
    | updateAlbum raw body => exact shape_updateAlbum raw body
    | deleteAlbum raw => exact shape_deleteAlbum raw hreaches.1
  | notAllowed methods =>
    unfold respond
    rw [h]
    exact .silent
  | redirect path =>
    unfold respond
    rw [h]
    exact .silent
  | unknown =>
    unfold respond
    rw [h]
    exact .silent

end Shapes

end Discography.Api
