import Discography.Proofs.Plans
import Discography.Proofs.Routing
import Discography.Proofs.Storage

/-!
# What endpoints come to over a database

A plan that is followed to its end over a database comes to a value and leaves a world. For each way
through an endpoint there is one statement, by the answers of the storage calls on that way.

* `Comes.call` — a storage call, then what follows on its answer.
* `comes_create`, `comes_list`, `comes_get`, `comes_update`, `comes_delete` — the ways to success;
  their companions end in a failure.
* `serve_of_comes` — the response to what an endpoint comes to.
-/

set_option autoImplicit false

namespace Discography.Api

open Discography.Calendar Discography.Log Discography.Store Discography.Http

/-! ## What can be read -/

theorem parse_draft_error {body : ByteArray} {f : Failure} (h : Draft.parse body = .error f) :
    f = .malformed "malformed request body" := by
  unfold Draft.parse Draft.parseWithin at h
  split at h
  · cases h
  · exact (Except.error.inj h).symm

theorem parse_id_error {raw : Option String} {f : Failure} (h : AlbumId.parse raw = .error f) :
    f = .malformed "malformed album id" := by
  unfold AlbumId.parse at h
  split at h
  · cases h
  · exact (Except.error.inj h).symm

theorem parse_id_ok {raw : String} {id : AlbumId} :
    AlbumId.parse (some raw) = .ok id ↔ AlbumId.read? raw = some id := by
  unfold AlbumId.parse
  simp only [Option.bind_some]
  cases AlbumId.read? raw <;> simp

theorem named?_of_parse {r : Request} {raw : String} {id : AlbumId} (hs : segment? r = some raw)
    (hi : AlbumId.parse (some raw) = .ok id) : named? r = some id := by
  rw [named?, hs, Option.bind_some]
  exact parse_id_ok.1 hi

/-- A draft that has been read has a price of 64 bits. -/
theorem fitsInt64_of_parse {body : ByteArray} {d : Draft} (h : Draft.parse body = .ok d) :
    fitsInt64 d.price = true := by
  have hp (v : Option Json.Value) (n : Int) (hv : Draft.priceOf? v = some n) :
      fitsInt64 n = true := by
    unfold Draft.priceOf? at hv
    split at hv
    · cases hv; decide
    · cases hv; decide
    · split at hv
      · rename_i hf; cases hv; exact hf
      · cases hv
    · cases hv
  unfold Draft.parse Draft.parseWithin at h
  split at h
  · rename_i d' hr
    cases h
    simp only [Draft.readWithin?, Option.bind_eq_some_iff, Draft.ofValue?] at hr
    obtain ⟨v, -, ms, -, hm⟩ := hr
    simp only [Draft.ofMembers?, Option.bind_eq_bind, Option.bind_eq_some_iff] at hm
    obtain ⟨title, -, artist, -, price, hprice, he⟩ := hm
    cases he
    exact hp _ _ hprice
  · cases h

/-! ## What plans come to -/

/-- A plan over a database comes to a value and leaves a world. -/
def Comes {α : Type} (s : Supply) (p : Plan α) (w : World Database) (x : α) (w' : World Database) :
    Prop :=
  (p.run .database s w).value = x ∧ (p.run .database s w).world = w'

namespace Comes

variable {α β : Type} {s : Supply} {w w' : World Database} {d d' : Database} {n k : Nat} {x : α}

theorem done : Comes s (.done x) w x w := ⟨rfl, rfl⟩

theorem report {event : Event} {next : Plan α} (h : Comes s next w x w') :
    Comes s (.report event next) w x w' := h

theorem reportAll {events : List Event} {next : Plan α} (h : Comes s next w x w') :
    Comes s (.reportAll events next) w x w' := by
  induction events with
  | nil => exact h
  | cons event events ih => exact .report ih

theorem readClock {next : Stamp → Plan α} (h : Comes s (next (s.clock n)) ⟨d, n + 1, k⟩ x w') :
    Comes s (.readClock next) ⟨d, n, k⟩ x w' := h

theorem drawId {next : AlbumId → Plan α} (h : Comes s (next (s.ids k)) ⟨d, n, k + 1⟩ x w') :
    Comes s (.drawId next) ⟨d, n, k⟩ x w' := h

theorem call {c : Call} {answer : Except Failure c.Answer} {next : Except Failure c.Answer → Plan α}
    (hc : d.perform c = (answer, d')) (h : Comes s (next answer) ⟨d', n, k⟩ x w') :
    Comes s (.call c next) ⟨d, n, k⟩ x w' := by
  unfold Comes Plan.run
  simp only [Backend.database, hc]
  exact h

theorem ping {next : Except Failure Unit → Plan α} (h : Comes s (next d.connect) ⟨d, n, k⟩ x w') :
    Comes s (.ping next) ⟨d, n, k⟩ x w' := h

/-- A call that fails for another reason than a missing album comes to an internal error. -/
theorem resume_error {c : Call} {about : Option AlbumId} {f : Failure}
    {next : α → Plan (Except Failure β)} (hf : f ≠ .notFound) :
    Comes s (resume c about next (.error f)) w (.error (.internal c.description)) w := by
  rw [Api.resume_error c about next hf]
  exact .report .done

section Stages

variable {r : Except Failure α} {next : α → Plan (Except Failure β)} {y : Except Failure β}
  {ctx : Context} {draft : Draft} {p : Plan (Except Failure β)} {f : Failure}

theorem ifRead_ok (hr : r = .ok x) (h : Comes s (next x) w y w') : Comes s (ifRead r next) w y w' := by
  rw [hr]
  exact h

theorem ifRead_error (hr : r = .error f) : Comes s (ifRead r next) w (.error f) w := by
  rw [hr]
  exact .done

theorem ifOpen (hd : ctx.hasDatabase = true) (h : Comes s p w y w') :
    Comes s (ctx.ifOpen p) w y w' := by
  unfold Context.ifOpen
  rw [if_pos hd]
  exact h

theorem ifValid (hv : (ctx.validator draft).isEmpty = true) (h : Comes s p w y w') :
    Comes s (ctx.ifValid draft p) w y w' := by
  unfold Context.ifValid
  rw [if_pos hv]
  exact h

theorem ifValid_error (hv : ¬ (ctx.validator draft).isEmpty = true) :
    Comes s (ctx.ifValid draft p) w (.error (.invalid (ctx.validator draft))) w := by
  unfold Context.ifValid
  rw [if_neg hv]
  exact .done

end Stages

end Comes

/-! ## What endpoints come to

One statement for each way through an endpoint, by the answers of the storage calls on the way. -/

section Endpoints

variable {s : Supply} {ctx : Context} {w : World Database} {d d' : Database} {n k : Nat}
  {raw : String} {body : ByteArray} {id : AlbumId} {draft : Draft} {a : Album} {f : Failure}

theorem comes_readiness (hd : ctx.hasDatabase = true) :
    Comes s (planOf ctx .readiness) ⟨d, n, k⟩
      (.ok (if (health d.connect).1 then ready else notReady)) ⟨d, n, k⟩ := by
  show Comes s (readiness ctx) _ _ _
  rw [readiness, if_pos hd]
  exact .ping <| .reportAll .done

theorem comes_create_malformed (hr : Draft.parse body = .error f) :
    Comes s (planOf ctx (.createAlbum body)) w (.error f) w := by
  rw [planOf_createAlbum]
  exact .ifRead_error hr

theorem comes_create_invalid (hd : ctx.hasDatabase = true) (hr : Draft.parse body = .ok draft)
    (hv : ¬ (ctx.validator draft).isEmpty = true) :
    Comes s (planOf ctx (.createAlbum body)) w (.error (.invalid (ctx.validator draft))) w := by
  rw [planOf_createAlbum]
  exact .ifRead_ok hr <| .ifOpen hd <| .ifValid_error hv

theorem comes_create_failed (hd : ctx.hasDatabase = true) (hr : Draft.parse body = .ok draft)
    (hv : (ctx.validator draft).isEmpty = true)
    (hc : d.perform (.insert (Album.create (s.ids k) draft (s.clock n))) = (.error f, d'))
    (hf : f ≠ .notFound) :
    Comes s (planOf ctx (.createAlbum body)) ⟨d, n, k⟩
      (.error (.internal "inserting album into the storage")) ⟨d', n + 1, k + 1⟩ := by
  rw [planOf_createAlbum]
  exact .ifRead_ok hr <| .ifOpen hd <| .ifValid hv <| .readClock <| .drawId <| .call hc <|
    .resume_error hf

theorem comes_create (hd : ctx.hasDatabase = true) (hr : Draft.parse body = .ok draft)
    (hv : (ctx.validator draft).isEmpty = true)
    (hc : d.perform (.insert (Album.create (s.ids k) draft (s.clock n))) = (.ok (), d')) :
    Comes s (planOf ctx (.createAlbum body)) ⟨d, n, k⟩
      (.ok (.json 201 (Album.create (s.ids k) draft (s.clock n)).response))
      ⟨d', n + 1, k + 1⟩ := by
  rw [planOf_createAlbum]
  exact .ifRead_ok hr <| .ifOpen hd <| .ifValid hv <| .readClock <| .drawId <| .call hc .done

theorem comes_list_refused (hd : ctx.hasDatabase = true) {query : String}
    (hq : Page.parse (lastParameter? query "page_size") (lastParameter? query "page_number") =
      .error f) :
    Comes s (planOf ctx (.listAlbums query)) w (.error f) w := by
  rw [planOf_listAlbums]
  exact .ifOpen hd <| .ifRead_error hq

theorem comes_list (hd : ctx.hasDatabase = true) {query : String} {page : Page}
    {albums : List Album}
    (hq : Page.parse (lastParameter? query "page_size") (lastParameter? query "page_number") =
      .ok page)
    (hc : d.perform (.findAll page.offset page.limit) = (.ok (some albums), d')) :
    Comes s (planOf ctx (.listAlbums query)) ⟨d, n, k⟩
      (.ok (.json 200 (.array (albums.map Album.response)))) ⟨d', n, k⟩ := by
  rw [planOf_listAlbums]
  exact .ifOpen hd <| .ifRead_ok hq <| .call hc .done

theorem comes_list_nothing (hd : ctx.hasDatabase = true) {query : String} {page : Page}
    (hq : Page.parse (lastParameter? query "page_size") (lastParameter? query "page_number") =
      .ok page)
    (hc : d.perform (.findAll page.offset page.limit) = (.ok none, d')) :
    Comes s (planOf ctx (.listAlbums query)) ⟨d, n, k⟩ (.error nothingToList) ⟨d', n, k⟩ := by
  rw [planOf_listAlbums]
  exact .ifOpen hd <| .ifRead_ok hq <| .call hc .done

theorem comes_list_empty (hd : ctx.hasDatabase = true) {query : String} {page : Page}
    (hq : Page.parse (lastParameter? query "page_size") (lastParameter? query "page_number") =
      .ok page)
    (hc : d.perform (.findAll page.offset page.limit) = (.error .notFound, d')) :
    Comes s (planOf ctx (.listAlbums query)) ⟨d, n, k⟩ (.ok (.json 200 (.array []))) ⟨d', n, k⟩ := by
  rw [planOf_listAlbums]
  exact .ifOpen hd <| .ifRead_ok hq <| .call hc .done

theorem comes_list_failed (hd : ctx.hasDatabase = true) {query : String} {page : Page}
    (hq : Page.parse (lastParameter? query "page_size") (lastParameter? query "page_number") =
      .ok page)
    (hc : d.perform (.findAll page.offset page.limit) = (.error f, d')) (hf : f ≠ .notFound) :
    Comes s (planOf ctx (.listAlbums query)) ⟨d, n, k⟩
      (.error (.internal "finding albums in the storage")) ⟨d', n, k⟩ := by
  rw [planOf_listAlbums]
  refine .ifOpen hd <| .ifRead_ok hq <| .call hc ?_
  cases f <;> first | exact .report .done | exact absurd rfl hf

theorem comes_get_malformed (hi : AlbumId.parse (some raw) = .error f) :
    Comes s (planOf ctx (.getAlbum raw)) w (.error f) w := by
  rw [planOf_getAlbum]
  exact .ifRead_error hi

theorem comes_get_missing (hd : ctx.hasDatabase = true) (hi : AlbumId.parse (some raw) = .ok id)
    (hc : d.perform (.findOne id) = (.error .notFound, d')) :
    Comes s (planOf ctx (.getAlbum raw)) ⟨d, n, k⟩ (.error .notFound) ⟨d', n, k⟩ := by
  rw [planOf_getAlbum]
  exact .ifRead_ok hi <| .ifOpen hd <| .call hc .done

theorem comes_get (hd : ctx.hasDatabase = true) (hi : AlbumId.parse (some raw) = .ok id)
    (hc : d.perform (.findOne id) = (.ok (some a), d')) :
    Comes s (planOf ctx (.getAlbum raw)) ⟨d, n, k⟩ (.ok (.json 200 a.response)) ⟨d', n, k⟩ := by
  rw [planOf_getAlbum]
  exact .ifRead_ok hi <| .ifOpen hd <| .call hc .done

theorem comes_update_malformedId (hi : AlbumId.parse (some raw) = .error f) :
    Comes s (planOf ctx (.updateAlbum raw body)) w (.error f) w := by
  rw [planOf_updateAlbum]
  exact .ifRead_error hi

theorem comes_update_malformed (hi : AlbumId.parse (some raw) = .ok id)
    (hr : Draft.parse body = .error f) :
    Comes s (planOf ctx (.updateAlbum raw body)) w (.error f) w := by
  rw [planOf_updateAlbum]
  exact .ifRead_ok hi <| .ifRead_error hr

theorem comes_update_invalid (hd : ctx.hasDatabase = true)
    (hi : AlbumId.parse (some raw) = .ok id) (hr : Draft.parse body = .ok draft)
    (hv : ¬ (ctx.validator draft).isEmpty = true) :
    Comes s (planOf ctx (.updateAlbum raw body)) w (.error (.invalid (ctx.validator draft))) w := by
  rw [planOf_updateAlbum]
  exact .ifRead_ok hi <| .ifRead_ok hr <| .ifOpen hd <| .ifValid_error hv

theorem comes_update_missing (hd : ctx.hasDatabase = true)
    (hi : AlbumId.parse (some raw) = .ok id) (hr : Draft.parse body = .ok draft)
    (hv : (ctx.validator draft).isEmpty = true)
    (hc : d.perform (.findOne id) = (.error .notFound, d')) :
    Comes s (planOf ctx (.updateAlbum raw body)) ⟨d, n, k⟩ (.error .notFound) ⟨d', n, k⟩ := by
  rw [planOf_updateAlbum]
  exact .ifRead_ok hi <| .ifRead_ok hr <| .ifOpen hd <| .ifValid hv <| .call hc .done

theorem comes_update_failed {e : Database} (hd : ctx.hasDatabase = true)
    (hi : AlbumId.parse (some raw) = .ok id) (hr : Draft.parse body = .ok draft)
    (hv : (ctx.validator draft).isEmpty = true)
    (hc : d.perform (.findOne id) = (.ok (some a), d'))
    (hu : d'.perform (.update (a.withDraft draft (s.clock n))) = (.error f, e))
    (hf : f ≠ .notFound) :
    Comes s (planOf ctx (.updateAlbum raw body)) ⟨d, n, k⟩
      (.error (.internal "updating album in the storage")) ⟨e, n + 1, k⟩ := by
  rw [planOf_updateAlbum]
  exact .ifRead_ok hi <| .ifRead_ok hr <| .ifOpen hd <| .ifValid hv <| .call hc <| .readClock <|
    .call hu <| .resume_error hf

theorem comes_update {e : Database} (hd : ctx.hasDatabase = true)
    (hi : AlbumId.parse (some raw) = .ok id) (hr : Draft.parse body = .ok draft)
    (hv : (ctx.validator draft).isEmpty = true)
    (hc : d.perform (.findOne id) = (.ok (some a), d'))
    (hu : d'.perform (.update (a.withDraft draft (s.clock n))) = (.ok (), e)) :
    Comes s (planOf ctx (.updateAlbum raw body)) ⟨d, n, k⟩
      (.ok (.json 200 (a.withDraft draft (s.clock n)).response)) ⟨e, n + 1, k⟩ := by
  rw [planOf_updateAlbum]
  exact .ifRead_ok hi <| .ifRead_ok hr <| .ifOpen hd <| .ifValid hv <| .call hc <| .readClock <|
    .call hu .done

theorem comes_delete_malformed (hi : AlbumId.parse (some raw) = .error f) :
    Comes s (planOf ctx (.deleteAlbum raw)) w (.error f) w := by
  rw [planOf_deleteAlbum]
  exact .ifRead_error hi

theorem comes_delete_missing (hd : ctx.hasDatabase = true)
    (hi : AlbumId.parse (some raw) = .ok id)
    (hc : d.perform (.findOne id) = (.error .notFound, d')) :
    Comes s (planOf ctx (.deleteAlbum raw)) ⟨d, n, k⟩ (.error .notFound) ⟨d', n, k⟩ := by
  rw [planOf_deleteAlbum]
  exact .ifRead_ok hi <| .ifOpen hd <| .call hc .done

theorem comes_delete {e : Database} (hd : ctx.hasDatabase = true)
    (hi : AlbumId.parse (some raw) = .ok id)
    (hc : d.perform (.findOne id) = (.ok (some a), d'))
    (he : d'.perform (.remove id) = (.ok (), e)) :
    Comes s (planOf ctx (.deleteAlbum raw)) ⟨d, n, k⟩ (.ok (.json 200 a.response))
      ⟨e, n, k⟩ := by
  rw [planOf_deleteAlbum]
  exact .ifRead_ok hi <| .ifOpen hd <| .call hc <| .call he .done

end Endpoints

/-! ## From plans to responses -/

/-- The response to what an endpoint comes to. -/
def answered (r : Request) : Except Failure Response → Response
  | .ok response => response
  | .error f => (reply r f).1

theorem serve_of_comes {s : Supply} {ctx : Context} {r : Request} {e : Endpoint}
    {w w' : World Database} {x : Except Failure Response}
    (h : find (routes r) r.method r.path = .endpoint e) (hx : Comes s (planOf ctx e) w x w') :
    (serve .database s ctx r w).value = answered r x ∧
      (serve .database s ctx r w).world = w' := by
  unfold serve respond
  rw [h]
  simp only [Plan.run_bind, hx.1, hx.2]
  cases x with
  | ok response => exact ⟨rfl, rfl⟩
  | error f => exact Comes.reportAll .done

theorem respond_of_not_find (ctx : Context) {r : Request}
    (h : ∀ e, find (routes r) r.method r.path ≠ .endpoint e) :
    respond ctx r = .done (unserved r (find (routes r) r.method r.path)) := by
  unfold respond
  cases hf : find (routes r) r.method r.path with
  | endpoint e => exact absurd hf (h e)
  | notAllowed methods => rfl
  | redirect path => rfl
  | unknown => rfl

/-- A request that reaches no endpoint changes nothing, and its response has no body to keep. -/
theorem serve_of_not_find {σ : Type} (b : Backend σ) (s : Supply) (ctx : Context) {r : Request}
    (h : ∀ e, find (routes r) r.method r.path ≠ .endpoint e) (w : World σ) :
    (serve b s ctx r w).value = unserved r (find (routes r) r.method r.path) ∧
      (serve b s ctx r w).world = w := by
  unfold serve
  rw [respond_of_not_find ctx h]
  exact ⟨rfl, rfl⟩

/-- The status with which a failure is answered. -/
def statusOf : Failure → Int
  | .http status _ => status
  | .unreadable _ => 400
  | f => (f.terms?.map Failure.Terms.status).getD 500

@[simp] theorem statusOf_notFound : statusOf .notFound = 404 := rfl

@[simp] theorem statusOf_malformed (message : String) : statusOf (.malformed message) = 400 := rfl

@[simp] theorem statusOf_invalid (problems : Problems) : statusOf (.invalid problems) = 400 := rfl

@[simp] theorem statusOf_internal (operation : String) : statusOf (.internal operation) = 500 := rfl

theorem status_answered (r : Request) (f : Failure) :
    (answered r (.error f)).status = statusOf f := by
  cases f with
  | http status detail =>
    show (frameworkReply status detail).1.status = status
    unfold frameworkReply
    split <;> rfl
  | _ => rfl

end Discography.Api
