import Discography.Proofs.CallShapes
import Discography.Proofs.Checkpoints
import Discography.Proofs.PageReading
import Discography.Proofs.Runs

/-!
# The first refusal decides

What the service does for a request to albums is the course of its checkpoints, over any storage and
whatever it answers: the same answer, the same calls with the same answers, and the same world
afterwards. So the first checkpoint that turns a request away decides, and nothing that comes after
it is looked at.

* `Takes` — a plan does what the course of checkpoints says.
* `takes_path`, `takes_body` and so on — one lemma for each checkpoint; `takes_planOf` puts them
  together for each endpoint.
* `first_refusal_decides` — the course of a request, and of all others that agree with it up to the
  first refusal.
-/

set_option autoImplicit false

namespace Discography.Api

open Discography.Calendar Discography.Store Discography.Http

variable {σ : Type}

/-! ## Plans and courses -/

/-- What becomes of a visit: the answer, the world afterwards, and the calls with their answers. -/
structure Visited (σ : Type) where
  response : Response
  world : World σ
  asked : List Asked

/-- What becomes of a visit if a plan is followed. -/
def Visit.follow (v : Visit σ) (q : Plan Response) (w : World σ) : Visited σ :=
  ⟨(q.run v.backend v.supply w).value, (q.run v.backend v.supply w).world,
    q.asked v.backend v.supply w⟩

/-- What becomes of a visit by what has been seen. -/
def Course.visited (e : Endpoint) (k : Findings) (c : Course σ) : Visited σ :=
  ⟨verdict e k c.sights, c.world, c.sights.filterMap Sight.asked?⟩

/-- A visit with a sight in front of it. -/
def Visited.after (x : Sight) (u : Visited σ) : Visited σ :=
  { u with asked := x.asked?.toList ++ u.asked }

/-- A plan does what the course of checkpoints says, after what has been found before. -/
def Takes (v : Visit σ) (e : Endpoint) (ps : List Checkpoint) (k : Findings) (w : World σ)
    (q : Plan Response) : Prop :=
  v.follow q w = (course v ps k w).visited e k

section Takes

variable {v : Visit σ} {e : Endpoint} {p : Checkpoint} {ps : List Checkpoint} {k : Findings}
  {w w' : World σ} {x : Sight} {q q' : Plan Response}

theorem filterMap_asked? (x : Sight) (rest : List Sight) :
    (x :: rest).filterMap Sight.asked? = x.asked?.toList ++ rest.filterMap Sight.asked? := by
  cases x <;> rfl

/-- A plan that answers with the refusal of the first checkpoint. -/
theorem Takes.refused {answer : Response} (hlook : p.look v k w = (x, w'))
    (hx : x.refusal? = some answer) (hq : v.follow q w = ⟨answer, w', x.asked?.toList⟩) :
    Takes v e (p :: ps) k w q := by
  unfold Takes Course.visited
  rw [course_refused hlook hx, verdict_refused hx, filterMap_asked?, List.filterMap_nil,
    List.append_nil]
  exact hq

/-- A plan that passes the first checkpoint and takes the course of the others. -/
theorem Takes.passed (hlook : p.look v k w = (x, w')) (hx : x.refusal? = none)
    (hq : v.follow q w = (v.follow q' w').after x) (h : Takes v e ps (k.note x) w' q') :
    Takes v e (p :: ps) k w q := by
  unfold Takes at h ⊢
  rw [hq, h, course_passed hlook hx]
  unfold Course.visited
  rw [verdict_passed hx, filterMap_asked?]
  rfl

theorem takes_success {response : Response} (h : response = success e k) :
    Takes v e [] k w (.done response) := by
  subst h
  rfl

/-! ## Checkpoints of the request -/

section Request

variable {raw : String} {body : ByteArray} {query : String}

theorem takes_path {next : AlbumId → Plan (Except Failure Response)}
    (hs : segment? v.request = some raw)
    (h : ∀ id, Takes v e ps { k with id } w ((next id).bind (replying v.request))) :
    Takes v e (.path :: ps) k w
      ((ifRead (AlbumId.parse (some raw)) next).bind (replying v.request)) := by
  have hlook : Checkpoint.path.look v k w = (.path (AlbumId.read? raw), w) := by
    show (Sight.path (named? v.request), w) = _
    rw [named?, hs]
    rfl
  cases hread : AlbumId.read? raw with
  | some id =>
    rw [hread] at hlook
    rw [parse_id_ok.2 hread]
    exact .passed hlook rfl rfl (h id)
  | none =>
    rw [hread] at hlook
    have hparse : AlbumId.parse (some raw) = .error (.malformed "malformed album id") := by
      rw [AlbumId.parse, Option.bind_some, hread]
    rw [hparse]
    exact .refused hlook rfl rfl

theorem takes_body {next : Draft → Plan (Except Failure Response)} (hb : body = v.request.body)
    (h : ∀ draft, Takes v e ps { k with draft } w ((next draft).bind (replying v.request))) :
    Takes v e (.body :: ps) k w ((ifRead (Draft.parse body) next).bind (replying v.request)) := by
  have hlook : Checkpoint.body.look v k w = (.body (Draft.readWithin? bodyLimits body), w) := by
    rw [hb]
    rfl
  cases hread : Draft.readWithin? bodyLimits body with
  | some draft =>
    rw [hread] at hlook
    rw [Draft.parse, Draft.parseWithin, hread]
    exact .passed hlook rfl rfl (h draft)
  | none =>
    rw [hread] at hlook
    rw [Draft.parse, Draft.parseWithin, hread]
    exact .refused hlook rfl rfl

theorem takes_page {next : Page → Plan (Except Failure Response)} (hq : query = v.request.query)
    (h : ∀ page, Takes v e ps { k with page } w ((next page).bind (replying v.request))) :
    Takes v e (.page :: ps) k w ((ifRead
      (Page.parse (lastParameter? query "page_size") (lastParameter? query "page_number")) next).bind
        (replying v.request)) := by
  have hlook : Checkpoint.page.look v k w =
      (.page (Page.parse (lastParameter? query "page_size") (lastParameter? query "page_number")),
        w) := by
    rw [hq]
    rfl
  rcases Page.parse_cases (lastParameter? query "page_size") (lastParameter? query "page_number")
    with ⟨page, hparse⟩ | ⟨message, hparse⟩ | ⟨count, hover⟩
  · rw [hparse] at hlook ⊢
    exact .passed hlook rfl rfl (h page)
  · rw [hparse] at hlook ⊢
    exact .refused hlook rfl rfl
  · rw [Page.parse_of_unconverted hover] at hlook ⊢
    exact .refused hlook rfl rfl

end Request

/-! ## Checkpoints of the service -/

section Service

variable {plan : Plan (Except Failure Response)}

theorem takes_manager (h : Takes v e ps k w (plan.bind (replying v.request))) :
    Takes v e (.manager :: ps) k w ((v.context.ifOpen plan).bind (replying v.request)) := by
  unfold Context.ifOpen
  have hlook : Checkpoint.manager.look v k w = (.manager v.context.hasDatabase, w) := rfl
  cases hopen : v.context.hasDatabase with
  | true =>
    rw [hopen] at hlook
    exact .passed hlook rfl rfl h
  | false =>
    rw [hopen] at hlook
    exact .refused hlook rfl rfl

theorem takes_validation (h : Takes v e ps k w (plan.bind (replying v.request))) :
    Takes v e (.validation :: ps) k w
      ((v.context.ifValid k.draft plan).bind (replying v.request)) := by
  unfold Context.ifValid
  have hlook : Checkpoint.validation.look v k w =
      (.validation (v.context.validator k.draft), w) := rfl
  cases hproblems : v.context.validator k.draft with
  | nil =>
    rw [hproblems] at hlook
    exact .passed hlook rfl rfl h
  | cons p ps =>
    rw [hproblems] at hlook
    exact .refused hlook rfl rfl

theorem takes_clock {next : Stamp → Plan (Except Failure Response)}
    (h : Takes v e ps { k with now := v.supply.clock w.readings }
      { w with readings := w.readings + 1 }
      ((next (v.supply.clock w.readings)).bind (replying v.request))) :
    Takes v e (.clock :: ps) k w ((Plan.readClock next).bind (replying v.request)) :=
  .passed rfl rfl rfl h

theorem takes_draw {next : AlbumId → Plan (Except Failure Response)}
    (h : Takes v e ps { k with id := v.supply.ids w.draws } { w with draws := w.draws + 1 }
      ((next (v.supply.ids w.draws)).bind (replying v.request))) :
    Takes v e (.draw :: ps) k w ((Plan.drawId next).bind (replying v.request)) :=
  .passed rfl rfl rfl h

end Service

/-! ## Checkpoints of the storage -/

section Storage

variable {call : Findings → Call} {about : Option AlbumId}

theorem follow_call {c : Call} {next : Except Failure c.Answer → Plan Response}
    {answer : Except Failure c.Answer} {store : σ}
    (h : v.backend.perform c w.store = (answer, store)) :
    v.follow (.call c next) w =
      (v.follow (next answer) { w with store := store }).after (.stored ⟨c, answer⟩) := by
  unfold Visit.follow
  simp only [Plan.run, Plan.asked, h]
  rfl

/-- A call that is answered without a failure is passed; any failure turns the request away. -/
theorem takes_storage {next : (call k).Answer → Plan (Except Failure Response)}
    (hlisting : (call k).isListing = false)
    (h : ∀ x, Takes v e ps (k.note (.stored ⟨call k, .ok x⟩))
      { w with store := (v.backend.perform (call k) w.store).2 }
      ((next x).bind (replying v.request))) :
    Takes v e (.storage call :: ps) k w
      ((Plan.call (call k) (resume (call k) about next)).bind (replying v.request)) := by
  have hlook : (Checkpoint.storage call).look v k w =
      (.stored ⟨call k, (v.backend.perform (call k) w.store).1⟩,
        { w with store := (v.backend.perform (call k) w.store).2 }) := rfl
  rcases hperform : v.backend.perform (call k) w.store with ⟨answer, store⟩
  simp only [hperform] at hlook h
  have hcall : v.follow ((Plan.call (call k) (resume (call k) about next)).bind
      (replying v.request)) w = _ := follow_call hperform
  cases answer with
  | ok x => exact .passed hlook rfl hcall (h x)
  | error f =>
    by_cases hf : f = .notFound
    · subst hf
      exact .refused hlook (Sight.refusal?_missing hlisting) hcall
    · rw [resume_error (call k) about next hf] at hcall
      exact .refused hlook (Sight.refusal?_failed hf) hcall

theorem takes_present {α : Type} {f : Failure} {a : α} {next : α → Plan (Except Failure Response)}
    (hk : k.nothing = false) (h : Takes v e ps k w ((next a).bind (replying v.request))) :
    Takes v e (.presence :: ps) k w
      ((ifPresent f (some a) next).bind (replying v.request)) := by
  have hlook : Checkpoint.presence.look v k w = (.present true, w) := by
    rw [Checkpoint.look, hk]
    rfl
  exact .passed hlook rfl rfl h

theorem takes_absent {α : Type} {kind : FaultKind} {message : String}
    {next : α → Plan (Except Failure Response)} (hk : k.nothing = true) :
    Takes v e (.presence :: ps) k w
      ((ifPresent (.fault kind message) none next).bind (replying v.request)) := by
  have hlook : Checkpoint.presence.look v k w = (.present false, w) := by
    rw [Checkpoint.look, hk]
    rfl
  exact .refused hlook rfl rfl

end Storage

end Takes

/-! ## Endpoints -/

section Endpoints

variable {v : Visit σ} {w : World σ} {raw query : String} {body : ByteArray}

theorem takes_createAlbum (hb : body = v.request.body) :
    Takes v (.createAlbum body) (checkpoints (.createAlbum body)) {} w
      ((planOf v.context (.createAlbum body)).bind (replying v.request)) := by
  rw [planOf_createAlbum]
  refine takes_body hb fun draft => takes_manager (takes_validation ?_)
  exact takes_clock (takes_draw (takes_storage rfl fun _ => takes_success rfl))

theorem takes_getAlbum (hs : segment? v.request = some raw) :
    Takes v (.getAlbum raw) (checkpoints (.getAlbum raw)) {} w
      ((planOf v.context (.getAlbum raw)).bind (replying v.request)) := by
  rw [planOf_getAlbum]
  refine takes_path hs fun id => takes_manager (takes_storage rfl fun found => ?_)
  cases found with
  | some a => exact takes_present rfl (takes_success rfl)
  | none => exact takes_absent rfl

theorem takes_updateAlbum (hs : segment? v.request = some raw) (hb : body = v.request.body) :
    Takes v (.updateAlbum raw body) (checkpoints (.updateAlbum raw body)) {} w
      ((planOf v.context (.updateAlbum raw body)).bind (replying v.request)) := by
  rw [planOf_updateAlbum]
  refine takes_path hs fun id => takes_body hb fun draft => takes_manager (takes_validation ?_)
  refine takes_storage rfl fun found => ?_
  cases found with
  | some a => exact takes_present rfl (takes_clock (takes_storage rfl fun _ => takes_success rfl))
  | none => exact takes_absent rfl

theorem takes_deleteAlbum (hs : segment? v.request = some raw) :
    Takes v (.deleteAlbum raw) (checkpoints (.deleteAlbum raw)) {} w
      ((planOf v.context (.deleteAlbum raw)).bind (replying v.request)) := by
  rw [planOf_deleteAlbum]
  refine takes_path hs fun id => takes_manager (takes_storage rfl fun found => ?_)
  -- What was found is shown only after the removal, which is asked for in either case.
  cases found with
  | some a => exact takes_storage rfl fun _ => takes_present rfl (takes_success rfl)
  | none => exact takes_storage rfl fun _ => takes_absent rfl

/-- A page on which no album was found is passed as one without albums. -/
theorem takes_listAlbums (hq : query = v.request.query) :
    Takes v (.listAlbums query) (checkpoints (.listAlbums query)) {} w
      ((planOf v.context (.listAlbums query)).bind (replying v.request)) := by
  rw [planOf_listAlbums]
  refine takes_manager (takes_page hq fun page => ?_)
  have hlook : (Checkpoint.storage fun k => .findAll k.page.offset k.page.limit).look v
      { page } w =
        (.stored ⟨.findAll page.offset page.limit,
            (v.backend.perform (.findAll page.offset page.limit) w.store).1⟩,
          { w with store := (v.backend.perform (.findAll page.offset page.limit) w.store).2 }) :=
    rfl
  rcases hperform : v.backend.perform (.findAll page.offset page.limit) w.store
    with ⟨answer, store⟩
  rw [hperform] at hlook
  have hcall : v.follow ((Plan.call (.findAll page.offset page.limit) fun answer =>
      (settled (.findAll page.offset page.limit) none answer).bind fun r =>
        .done (listing r)).bind (replying v.request)) w = _ := follow_call hperform
  cases answer with
  | ok found =>
    cases found with
    | some albums => exact .passed hlook rfl hcall (.passed rfl rfl rfl (takes_success rfl))
    | none => exact .passed hlook rfl hcall (.refused rfl rfl rfl)
  | error f =>
    by_cases hf : f = .notFound
    · subst hf
      exact .passed hlook rfl hcall (.passed rfl rfl rfl (takes_success rfl))
    · refine .refused hlook (Sight.refusal?_failed hf) (hcall.trans ?_)
      cases f <;> first | rfl | exact absurd rfl hf

/-- **Every endpoint takes the course of its checkpoints**, but for the readiness probe, which has
none. -/
theorem takes_planOf {e : Endpoint} (he : Reaches v.request e) (hne : e ≠ .readiness) :
    Takes v e (checkpoints e) {} w ((planOf v.context e).bind (replying v.request)) := by
  cases e with
  | health => exact takes_success rfl
  | readiness => exact absurd rfl hne
  | createAlbum body => exact takes_createAlbum he.2
  | listAlbums query => exact takes_listAlbums he.2
  | getAlbum raw => exact takes_getAlbum he.2
  | updateAlbum raw body => exact takes_updateAlbum he.2.1 he.2.2
  | deleteAlbum raw => exact takes_deleteAlbum he.2

end Endpoints

/-! ## Requests -/

/-- What becomes of a request to the albums. -/
theorem follow_respond {v : Visit σ} {w : World σ} {e : Endpoint}
    (he : find (routes v.request) v.request.method v.request.path = .endpoint e)
    (hne : e ≠ .readiness) :
    v.follow (respond v.context v.request) w = (course v (checkpoints e) {} w).visited e {} := by
  rw [respond_of_find he]
  exact takes_planOf (reaches_of_find he) hne

/-- **The first refusal decides, and nothing after it happens.** A request that reaches an endpoint of
albums, whatever answers its storage calls and whatever the validator, the clock and the ids say,
passes the checkpoints of the endpoint in their order up to the first that turns it away. What was seen
there gives the answer, the storage calls with their answers, and the readings of the clock and the
draws of ids; nothing else is asked, read, drawn or changed. If the request was turned away, that was
the last checkpoint and its refusal is the answer; and every other request to the same kind of
endpoint that meets the same up to this checkpoint is turned away there with the same answer, after
the same calls, whatever else it brings, over whatever other storage and in whatever other world. -/
theorem first_refusal_decides (v : Visit σ) (w : World σ) {e : Endpoint}
    (he : find (routes v.request) v.request.method v.request.path = .endpoint e)
    (hne : e ≠ .readiness) :
    let o := serve v.backend v.supply v.context v.request w
    let c := course v (checkpoints e) {} w
    let asked := (respond v.context v.request).asked v.backend v.supply w
    (o.value = verdict e {} c.sights ∧ o.world = c.world) ∧
      (asked = c.sights.filterMap Sight.asked? ∧ o.calls = asked.map Asked.call ∧
        o.world.readings = w.readings + c.sights.countP Sight.isReading ∧
        o.world.draws = w.draws + c.sights.countP Sight.isDraw) ∧
      ∀ pre x post answer, c.sights = pre ++ x :: post → x.refusal? = some answer →
        post = [] ∧ o.value = answer ∧
          ∀ (τ : Type) (v' : Visit τ) (w' : World τ) (e' : Endpoint),
            find (routes v'.request) v'.request.method v'.request.path = .endpoint e' →
            checkpoints e' = checkpoints e →
            Agree v v' c.sights.length (checkpoints e) {} w w' →
              (serve v'.backend v'.supply v'.context v'.request w').value = answer ∧
                (respond v'.context v'.request).asked v'.backend v'.supply w' = asked := by
  intro o c asked
  have hfollow := follow_respond (w := w) he hne
  have hvalue : o.value = verdict e {} c.sights := congrArg Visited.response hfollow
  have hworld : o.world = c.world := congrArg Visited.world hfollow
  have hasked : asked = c.sights.filterMap Sight.asked? := congrArg Visited.asked hfollow
  obtain ⟨hreadings, hdraws⟩ := course_counts v (checkpoints e) {} w
  refine ⟨⟨hvalue, hworld⟩, ⟨hasked, (Plan.map_call_asked _ _ _ _).symm, ?_, ?_⟩, ?_⟩
  · rw [hworld]
    exact hreadings
  · rw [hworld]
    exact hdraws
  · intro pre x post answer hsights hx
    obtain ⟨hpost, hverdict⟩ := course_stops (e := e) hsights hx
    refine ⟨hpost, hvalue.trans hverdict, ?_⟩
    intro τ v' w' e' he' hkind hagree
    have hsame : (course v' (checkpoints e') {} w').sights = c.sights := by
      rw [hkind]
      exact sights_of_agree (Nat.le_refl _) hagree
    -- The readiness probe has no checkpoints, and so no sight that turns a request away.
    have hne' : e' ≠ .readiness := by
      rintro rfl
      rw [hsights] at hsame
      exact absurd (congrArg List.length hsame) (by simp [checkpoints, course])
    have hfollow' := follow_respond (w := w') he' hne'
    constructor
    · obtain ⟨-, hverdict'⟩ := course_stops (e := e') (hsame.trans hsights) hx
      exact (congrArg Visited.response hfollow').trans hverdict'
    · rw [hasked, ← hsame]
      exact congrArg Visited.asked hfollow'

/-- Two requests to change an album that name no id: one without a body while no database is open, the
other with a body that can be read over an empty catalog. -/
theorem first_refusal_decides_malformed_id :
    let r : Request := ⟨"PUT", "/albums/x", "", .empty⟩
    let r' : Request := ⟨"PUT", "/albums/x", "", adding.body⟩
    let closed : Context := ⟨false, Draft.problems⟩
    find (routes r) r.method r.path = .endpoint (.updateAlbum "x" .empty) ∧
      (serve .database standstill closed r ⟨.unopenable, 0, 0⟩).value =
        .message 400 "malformed album id" ∧
      (serve .database standstill closed r ⟨.unopenable, 0, 0⟩).calls = [] ∧
      (serve .database standstill catalog r' emptyCatalog).value =
        .message 400 "malformed album id" := by
  intro r r' closed
  let v : Visit Database := ⟨.database, standstill, closed, r⟩
  let v' : Visit Database := ⟨.database, standstill, catalog, r'⟩
  let w : World Database := ⟨.unopenable, 0, 0⟩
  have hsegment : segment? r = some "x" := by decide +kernel
  have hsegment' : segment? r' = some "x" := by decide +kernel
  have he := find_updateAlbum rfl hsegment
  have hread : named? r = none := by decide +kernel
  have hlook : Checkpoint.path.look v {} w = (.path none, w) := by
    show (Sight.path (named? r), w) = _
    rw [hread]
  have hcourse : course v (checkpoints (.updateAlbum "x" r.body)) {} w = ⟨[.path none], w⟩ :=
    course_refused hlook rfl
  have hsights : (course v (checkpoints (.updateAlbum "x" r.body)) {} w).sights =
      [] ++ .path none :: [] := congrArg Course.sights hcourse
  obtain ⟨-, ⟨hasked, hcalls, -, -⟩, hstop⟩ := first_refusal_decides v w he nofun
  obtain ⟨-, hvalue, hothers⟩ := hstop [] (.path none) [] _ hsights rfl
  obtain ⟨hvalue', -⟩ := hothers Database v' emptyCatalog (.updateAlbum "x" r'.body)
    (find_updateAlbum rfl hsegment') rfl (by
      rw [hsights]
      exact ⟨hsegment.trans hsegment'.symm, trivial⟩)
  refine ⟨he, hvalue, ?_, hvalue'⟩
  rw [hsights] at hasked
  rw [hasked] at hcalls
  exact hcalls

end Discography.Api
