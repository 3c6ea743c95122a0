import Discography.Album.Body
import Discography.Api.Plan
import Discography.Http.Message
import Discography.Store.Scope

/-!
# Endpoints

What the service does for each kind of request. The stages of an endpoint follow in a fixed order
and the first that fails decides: the id in the path, the body, the presence of a database, the page
or the validation, then the storage.

* Storage failures other than a missing album are reported once and become internal errors.
* A changed or removed album is read first, so that its record can be answered.
-/

set_option autoImplicit false

namespace Discography.Api

open Discography.Log Discography.Store Discography.Http

/-- What a request asks for. -/
inductive Endpoint where
  | health
  | readiness
  | createAlbum (body : ByteArray)
  | listAlbums (query : String)
  | getAlbum (id : String)
  | updateAlbum (id : String) (body : ByteArray)
  | deleteAlbum (id : String)

/-- What the endpoints are given: whether a database is open, and the validator of drafts. -/
structure Context where
  hasDatabase : Bool
  validator : Validator

/-- The logger of the endpoints of albums. -/
def albumsLogger : String := "album_catalog.api.routes.albums"

/-- The version of the service. -/
def version : String := "0.1.0"

/-- The report on a storage call that failed, with the id of the album that was asked for. -/
def callFailed (c : Call) (about : Option AlbumId) (f : Failure) : Event :=
  { level := .error, logger := albumsLogger, message := c.description,
    extras := { error := some f.text, albumId := about.map AlbumId.text } }

/-- What a storage call comes to: a missing album is passed on, and any other failure is reported
and becomes an internal error. -/
def settled {α : Type} (c : Call) (about : Option AlbumId) :
    Except Failure α → Plan (Except Failure α)
  | .ok a => .done (.ok a)
  | .error .notFound => .done (.error .notFound)
  | .error f => .report (callFailed c about f) (.done (.error (.internal c.description)))

/-- A storage call on behalf of a request about an album, if it is about one. -/
def ask (c : Call) (about : Option AlbumId) : Attempt c.Answer :=
  ExceptT.mk (.call c fun answer => settled c about answer)

/-- Goes on only if a database is open. -/
def Context.requireDatabase (ctx : Context) : Attempt Unit :=
  .ofExcept (if ctx.hasDatabase then .ok () else .error .databaseMissing)

/-- Goes on only with a draft that has no problems. -/
def Context.check (ctx : Context) (d : Draft) : Attempt Unit :=
  .ofExcept (if (ctx.validator d).isEmpty then .ok () else .error (.invalid (ctx.validator d)))

/-- A storage that answered no album where one was asked for, so that none can be shown. -/
def nothingToShow : Failure := .fault .validation "1 validation error for AlbumResponse"

/-- A storage that answered no album where one was asked for, so that none can be changed. -/
def nothingToChange : Failure :=
  .fault .attribute "\x27NoneType\x27 object has no attribute \x27with_changes\x27"

/-- A storage that answered nothing where a list was asked for, so that none can be shown. -/
def nothingToList : Failure := .fault .type "\x27NoneType\x27 object is not iterable"

/-- What was asked for, if it is there. -/
def present {α : Type} (f : Failure) (found : Option α) : Attempt α :=
  .ofExcept (match found with
    | some a => .ok a
    | none => .error f)

/-- Adding a new album. -/
def createAlbum (ctx : Context) (body : ByteArray) : Attempt Response := do
  let draft ← Attempt.ofExcept (Draft.parse body)
  ctx.requireDatabase
  ctx.check draft
  let now ← Attempt.readClock
  let id ← Attempt.drawId
  let album := Album.create id draft now
  ask (.insert album) (some id)
  pure (.json 201 album.response)

/-- A page of albums; a page with none is empty. -/
def listAlbums (ctx : Context) (query : String) : Attempt Response := do
  ctx.requireDatabase
  let page ← Attempt.ofExcept
    (Page.parse (lastParameter? query "page_size") (lastParameter? query "page_number"))
  let found ← tryCatch (ask (.findAll page.offset page.limit) none) fun f =>
    Attempt.ofExcept (match f with
      | .notFound => .ok (some [])
      | f => .error f)
  let albums ← present nothingToList found
  pure (.json 200 (.array (albums.map Album.response)))

/-- One album. -/
def getAlbum (ctx : Context) (raw : String) : Attempt Response := do
  let id ← Attempt.ofExcept (AlbumId.parse (some raw))
  ctx.requireDatabase
  let found ← ask (.findOne id) (some id)
  let album ← present nothingToShow found
  pure (.json 200 album.response)

/-- Changing an album. -/
def updateAlbum (ctx : Context) (raw : String) (body : ByteArray) : Attempt Response := do
  let id ← Attempt.ofExcept (AlbumId.parse (some raw))
  let draft ← Attempt.ofExcept (Draft.parse body)
  ctx.requireDatabase
  ctx.check draft
  let found ← ask (.findOne id) (some id)
  let album ← present nothingToChange found
  let now ← Attempt.readClock
  let changed := album.withDraft draft now
  ask (.update changed) (some id)
  pure (.json 200 changed.response)

/-- Removing an album and answering what it was. -/
def deleteAlbum (ctx : Context) (raw : String) : Attempt Response := do
  let id ← Attempt.ofExcept (AlbumId.parse (some raw))
  ctx.requireDatabase
  let found ← ask (.findOne id) (some id)
  ask (.remove id) (some id)
  let album ← present nothingToShow found
  pure (.json 200 album.response)

/-- Whether the service is up. -/
def liveness : Response :=
  .json 200 (.object [("status", .text "healthy"), ("service", .text "album-catalog"),
    ("version", .text version)])

/-- The response while the database answers. -/
def ready : Response :=
  .json 200 (.object [("status", .text "ready"),
    ("checks", .object [("database", .text "healthy")])])

/-- The response while the database does not answer. -/
def notReady : Response :=
  .json 503 (.object [("status", .text "not_ready"), ("reason", .text "database_unavailable")])

/-- Whether the database answers. -/
def readiness (ctx : Context) : Plan (Except Failure Response) :=
  if ctx.hasDatabase then
    .ping fun answer =>
      let (healthy, events) := health answer
      .reportAll events (.done (.ok (if healthy then ready else notReady)))
  else .done (.ok notReady)

/-- The plan of an endpoint. -/
def planOf (ctx : Context) : Endpoint → Plan (Except Failure Response)
  | .health => .done (.ok liveness)
  | .readiness => readiness ctx
  | .createAlbum body => (createAlbum ctx body).run
  | .listAlbums query => (listAlbums ctx query).run
  | .getAlbum id => (getAlbum ctx id).run
  | .updateAlbum id body => (updateAlbum ctx id body).run
  | .deleteAlbum id => (deleteAlbum ctx id).run

end Discography.Api
