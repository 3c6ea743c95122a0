import Discography.Api.Service

/-!
# Plans of the endpoints, step by step

An endpoint is written as an attempt; here it is unfolded into the plan it stands for, so that each
reading of the clock, each id that is drawn and each storage call is in plain sight.

* `run_ofExcept_bind`, `run_requireDatabase_bind`, `run_check_bind` — stages that ask nothing.
* `resume` — how an endpoint goes on with the answer to a storage call.
* `planOf_createAlbum`, `planOf_listAlbums`, `planOf_getAlbum`, `planOf_updateAlbum`,
  `planOf_deleteAlbum` — the plan of each endpoint.
-/

set_option autoImplicit false

namespace Discography.Api

open Discography.Store Discography.Http

variable {α β : Type}

/-! ## Stages -/

/-- Goes on with a value that has been read. -/
def ifRead (r : Except Failure α) (next : α → Plan (Except Failure β)) : Plan (Except Failure β) :=
  match r with
  | .ok a => next a
  | .error f => .done (.error f)

@[simp] theorem ifRead_ok (a : α) (next : α → Plan (Except Failure β)) :
    ifRead (.ok a) next = next a := rfl

@[simp] theorem ifRead_error (f : Failure) (next : α → Plan (Except Failure β)) :
    ifRead (.error f) next = .done (.error f) := rfl

theorem run_ofExcept_bind (r : Except Failure α) (next : α → Attempt β) :
    (Attempt.ofExcept r >>= next).run = ifRead r fun a => (next a).run := by
  cases r <;> rfl

theorem run_readClock_bind (next : Calendar.Stamp → Attempt β) :
    (Attempt.readClock >>= next).run = .readClock fun now => (next now).run := rfl

theorem run_drawId_bind (next : AlbumId → Attempt β) :
    (Attempt.drawId >>= next).run = .drawId fun id => (next id).run := rfl

/-- Goes on if a database is open. -/
def Context.ifOpen (ctx : Context) (p : Plan (Except Failure α)) : Plan (Except Failure α) :=
  if ctx.hasDatabase then p else .done (.error .databaseMissing)

theorem run_requireDatabase_bind (ctx : Context) (next : Unit → Attempt β) :
    (ctx.requireDatabase >>= next).run = ctx.ifOpen (next ()).run := by
  unfold Context.requireDatabase Context.ifOpen
  rw [run_ofExcept_bind]
  split <;> rfl

/-- Goes on with a draft that has no problems. -/
def Context.ifValid (ctx : Context) (d : Draft) (p : Plan (Except Failure α)) :
    Plan (Except Failure α) :=
  if (ctx.validator d).isEmpty then p else .done (.error (.invalid (ctx.validator d)))

theorem run_check_bind (ctx : Context) (d : Draft) (next : Unit → Attempt β) :
    (ctx.check d >>= next).run = ctx.ifValid d (next ()).run := by
  unfold Context.check Context.ifValid
  rw [run_ofExcept_bind]
  split <;> rfl

/-- Goes on with what was found. -/
def ifPresent (f : Failure) (found : Option α) (next : α → Plan (Except Failure β)) :
    Plan (Except Failure β) :=
  ifRead (match found with
    | some a => .ok a
    | none => .error f) next

/-- Goes on with the answer to a storage call, once it is settled. -/
def resume (c : Call) (about : Option AlbumId) (next : α → Plan (Except Failure β))
    (answer : Except Failure α) : Plan (Except Failure β) :=
  (settled c about answer).bind fun r => ifRead r next

/-- A failure other than a missing album is reported and becomes an internal error. -/
theorem resume_error (c : Call) (about : Option AlbumId) (next : α → Plan (Except Failure β))
    {f : Failure} (h : f ≠ .notFound) :
    resume c about next (.error f) =
      .report (callFailed c about f) (.done (.error (.internal c.description))) := by
  cases f <;> first | rfl | exact absurd rfl h

theorem run_ask_bind (c : Call) (about : Option AlbumId) (next : c.Answer → Attempt β) :
    (ask c about >>= next).run = .call c (resume c about fun a => (next a).run) := by
  show Plan.call c _ = _
  congr 1
  funext answer
  rcases answer with (_ | _) | a <;> rfl

/-! ## The endpoints -/

theorem planOf_createAlbum (ctx : Context) (body : ByteArray) :
    planOf ctx (.createAlbum body) =
      ifRead (Draft.parse body) fun d => ctx.ifOpen <| ctx.ifValid d <|
        .readClock fun now => .drawId fun id =>
          .call (.insert (Album.create id d now)) <|
            resume (.insert (Album.create id d now)) (some id) fun _ =>
              .done (.ok (.json 201 (Album.create id d now).response)) := by
  show (createAlbum ctx body).run = _
  unfold createAlbum
  simp only [run_ofExcept_bind, run_requireDatabase_bind, run_check_bind, run_readClock_bind,
    run_drawId_bind, run_ask_bind (.insert _)]
  rfl

/-- The response to what a page comes to; a page that has no albums is a page all the same. -/
def listing : Except Failure (Option (List Album)) → Except Failure Response
  | .ok (some albums) => .ok (.json 200 (.array (albums.map Album.response)))
  | .ok none => .error nothingToList
  | .error .notFound => .ok (.json 200 (.array []))
  | .error f => .error f

theorem planOf_listAlbums (ctx : Context) (query : String) :
    planOf ctx (.listAlbums query) =
      ctx.ifOpen (ifRead
        (Page.parse (lastParameter? query "page_size") (lastParameter? query "page_number"))
        fun page => .call (.findAll page.offset page.limit) fun answer =>
          (settled (.findAll page.offset page.limit) none answer).bind fun r =>
            .done (listing r)) := by
  show (listAlbums ctx query).run = _
  unfold listAlbums
  simp only [run_requireDatabase_bind, run_ofExcept_bind]
  congr 2
  funext page
  show Plan.call _ _ = Plan.call _ _
  congr 1
  funext answer
  rcases answer with (_ | _) | (_ | a) <;> rfl

theorem planOf_getAlbum (ctx : Context) (raw : String) :
    planOf ctx (.getAlbum raw) =
      ifRead (AlbumId.parse (some raw)) fun id => ctx.ifOpen <|
        .call (.findOne id) <| resume (.findOne id) (some id) fun found =>
          ifPresent nothingToShow found fun a => .done (.ok (.json 200 a.response)) := by
  show (getAlbum ctx raw).run = _
  unfold getAlbum present
  simp only [run_ofExcept_bind, run_requireDatabase_bind, run_ask_bind (.findOne _)]
  rfl

theorem planOf_updateAlbum (ctx : Context) (raw : String) (body : ByteArray) :
    planOf ctx (.updateAlbum raw body) =
      ifRead (AlbumId.parse (some raw)) fun id => ifRead (Draft.parse body) fun d =>
        ctx.ifOpen <| ctx.ifValid d <|
          .call (.findOne id) <| resume (.findOne id) (some id) fun found =>
            ifPresent nothingToChange found fun a => .readClock fun now =>
              .call (.update (a.withDraft d now)) <|
                resume (.update (a.withDraft d now)) (some id) fun _ =>
                  .done (.ok (.json 200 (a.withDraft d now).response)) := by
  show (updateAlbum ctx raw body).run = _
  unfold updateAlbum present
  simp only [run_ofExcept_bind, run_requireDatabase_bind, run_check_bind, run_readClock_bind,
    run_ask_bind (.findOne _), run_ask_bind (.update _)]
  rfl

theorem planOf_deleteAlbum (ctx : Context) (raw : String) :
    planOf ctx (.deleteAlbum raw) =
      ifRead (AlbumId.parse (some raw)) fun id => ctx.ifOpen <|
        .call (.findOne id) <| resume (.findOne id) (some id) fun found =>
          .call (.remove id) <| resume (.remove id) (some id) fun _ =>
            ifPresent nothingToShow found fun a => .done (.ok (.json 200 a.response)) := by
  show (deleteAlbum ctx raw).run = _
  unfold deleteAlbum present
  simp only [run_ofExcept_bind, run_requireDatabase_bind, run_ask_bind (.findOne _),
    run_ask_bind (.remove _)]
  rfl

end Discography.Api
