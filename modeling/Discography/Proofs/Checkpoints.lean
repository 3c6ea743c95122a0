import Discography.Proofs.CallAnswers
import Discography.Proofs.Routing

/-!
# The checkpoints of an endpoint

An endpoint is described here a second time, by nothing but a list: the checkpoints that a request
passes one after the other, what each of them looks at, and the answer with which it turns a request
away. The first checkpoint that turns a request away is the last one that is reached.

* `Sight`, `Sight.refusal?` — what a checkpoint sees, and how a request is turned away there.
* `Checkpoint`, `Checkpoint.look` — the checkpoints.
* `checkpoints` — the checkpoints of each endpoint, in their order.
* `course` — the checkpoints up to the first refusal; `course_stops`, `course_counts`.
* `verdict` — the answer that follows from what has been seen.
* `Agree` — two visits that cannot be told apart at the first checkpoints; `sights_of_agree`.
-/

set_option autoImplicit false

namespace Discography.Api

open Discography.Calendar Discography.Store Discography.Http

/-! ## What is seen -/

/-- A request with everything that it meets: the storage, the clock and the ids, whether a database is
open, and the validator. -/
structure Visit (σ : Type) where
  backend : Backend σ
  supply : Supply
  context : Context
  request : Request

/-- What a checkpoint sees. -/
inductive Sight where
  /-- The id that the path names, if it can be read. -/
  | path (id : Option AlbumId)
  /-- The draft in the body, if it can be read. -/
  | body (draft : Option Draft)
  /-- Whether a database is open. -/
  | manager (isOpen : Bool)
  /-- What the validator says. -/
  | validation (problems : Problems)
  /-- The page that the query asks for. -/
  | page (read : Except Failure Page)
  /-- A reading of the clock. -/
  | clock (now : Stamp)
  /-- An id that is drawn. -/
  | drawn (id : AlbumId)
  /-- A storage call with its answer. -/
  | stored (a : Asked)
  /-- Whether the storage answered something where it was asked for albums. -/
  | present (isPresent : Bool)

namespace Sight

/-- The answer to a request that is turned away at such a sight. -/
def refusal? : Sight → Option Response
  | path none => some (.message 400 "malformed album id")
  | body none => some (.message 400 "malformed request body")
  | manager false => some (.message 500 "internal error")
  | validation (p :: ps) => some (.json 400 (.object
      [("message", .text "invalid request body"),
       ("problems", .object ((p :: ps).map fun q => (q.1, .text q.2)))]))
  | page (.error (.malformed message)) => some (.message 400 message)
  | page (.error _) => some (.message 500 "internal error")
  | stored ⟨c, .error f⟩ =>
    if f ≠ .notFound then some (.message 500 "internal error")
    else if c.isListing then none
    else some (.message 404 "album not found")
  | present false => some (.message 500 "internal error")
  | path (some _) | body (some _) | manager true | validation [] | page (.ok _) | clock _ | drawn _
  | stored ⟨_, .ok _⟩ | present true => none

/-- A failure of the storage turns a request away as an internal error, unless no album was found. -/
theorem refusal?_failed {c : Call} {f : Failure} (hf : f ≠ .notFound) :
    (stored ⟨c, .error f⟩).refusal? = some (.message 500 "internal error") := if_pos hf

theorem refusal?_missing {c : Call} (h : c.isListing = false) :
    (stored ⟨c, .error .notFound⟩).refusal? = some (.message 404 "album not found") := by
  simp [refusal?, h]

/-- The storage call that was made, with its answer. -/
def asked? : Sight → Option Asked
  | stored a => some a
  | _ => none

/-- Whether the clock was read. -/
def isReading : Sight → Bool
  | clock _ => true
  | _ => false

/-- Whether an id was drawn. -/
def isDraw : Sight → Bool
  | drawn _ => true
  | _ => false

end Sight

/-- What has been found so far; nothing is made of what has not been found yet. -/
structure Findings where
  id : AlbumId := default
  draft : Draft := default
  page : Page := ⟨0, 0⟩
  now : Stamp := default
  album : Album := default
  albums : List Album := []
  nothing : Bool := false

namespace Findings

/-- What is found at a sight is kept. -/
def note (k : Findings) : Sight → Findings
  | .path (some id) | .drawn id => { k with id }
  | .body (some draft) => { k with draft }
  | .page (.ok page) => { k with page }
  | .clock now => { k with now }
  | .stored ⟨.findOne _, .ok (some album)⟩ => { k with album }
  | .stored ⟨.findAll _ _, .ok (some albums)⟩ => { k with albums }
  | .stored ⟨.findOne _, .ok none⟩ | .stored ⟨.findAll _ _, .ok none⟩ => { k with nothing := true }
  | _ => k

/-- The album that is added: what the draft says, under the id that was drawn, created and changed at
the reading of the clock. -/
def added (k : Findings) : Album :=
  ⟨k.id, k.draft.title, k.draft.artist, k.draft.price, k.now, k.now⟩

/-- The album that was found, with the title, the artist and the price of the draft, changed at the
reading of the clock. -/
def changed (k : Findings) : Album :=
  { k.album with
    title := k.draft.title, artist := k.draft.artist, price := k.draft.price, updated := k.now }

end Findings

/-! ## Checkpoints -/

/-- A checkpoint. A storage call may depend on what has been found. Where albums were asked for, a
sound storage has failed if it has none, so that only one that answers nothing is stopped by the
checkpoint of presence. -/
inductive Checkpoint where
  | path
  | body
  | manager
  | validation
  | page
  | clock
  | draw
  | storage (call : Findings → Call)
  | presence

/-- What a checkpoint sees, and the world afterwards. -/
def Checkpoint.look {σ : Type} (v : Visit σ) (k : Findings) (w : World σ) :
    Checkpoint → Sight × World σ
  | path => (.path (named? v.request), w)
  | body => (.body (Draft.read? v.request.body), w)
  | manager => (.manager v.context.hasDatabase, w)
  | validation => (.validation (v.context.validator k.draft), w)
  | page =>
    (.page (Page.parse (lastParameter? v.request.query "page_size")
      (lastParameter? v.request.query "page_number")), w)
  | clock => (.clock (v.supply.clock w.readings), { w with readings := w.readings + 1 })
  | draw => (.drawn (v.supply.ids w.draws), { w with draws := w.draws + 1 })
  | storage call =>
    (.stored ⟨call k, (v.backend.perform (call k) w.store).1⟩,
      { w with store := (v.backend.perform (call k) w.store).2 })
  | presence => (.present (!k.nothing), w)

/-- **The checkpoints of the endpoints of albums**, in the order in which they are passed. -/
def checkpoints : Endpoint → List Checkpoint
  | .health | .readiness => []
  | .createAlbum _ =>
    [.body, .manager, .validation, .clock, .draw, .storage fun k => .insert k.added]
  | .listAlbums _ =>
    [.manager, .page, .storage fun k => .findAll k.page.offset k.page.limit, .presence]
  | .getAlbum _ => [.path, .manager, .storage fun k => .findOne k.id, .presence]
  | .updateAlbum _ _ =>
    [.path, .body, .manager, .validation, .storage fun k => .findOne k.id, .presence, .clock,
      .storage fun k => .update k.changed]
  | .deleteAlbum _ =>
    [.path, .manager, .storage fun k => .findOne k.id, .storage fun k => .remove k.id, .presence]

/-- The answer to a request that has passed all checkpoints. -/
def success : Endpoint → Findings → Response
  | .health, _ | .readiness, _ => liveness
  | .createAlbum _, k => .json 201 k.added.response
  | .listAlbums _, k => .json 200 (.array (k.albums.map Album.response))
  | .getAlbum _, k | .deleteAlbum _, k => .json 200 k.album.response
  | .updateAlbum _ _, k => .json 200 k.changed.response

/-- The answer that follows from what has been seen: the first refusal, or else success. -/
def verdict (e : Endpoint) (k : Findings) (sights : List Sight) : Response :=
  (sights.findSome? Sight.refusal?).getD (success e (sights.foldl Findings.note k))

/-- What has been seen at the checkpoints that were reached, and the world afterwards. -/
structure Course (σ : Type) where
  sights : List Sight
  world : World σ

variable {σ : Type}

/-- The checkpoints in turn, up to the first that turns the request away. -/
def course (v : Visit σ) : List Checkpoint → Findings → World σ → Course σ
  | [], _, w => ⟨[], w⟩
  | p :: ps, k, w =>
    let seen := p.look v k w
    match seen.1.refusal? with
    | some _ => ⟨[seen.1], seen.2⟩
    | none =>
      let rest := course v ps (k.note seen.1) seen.2
      ⟨seen.1 :: rest.sights, rest.world⟩

/-! ## The course of a visit -/

section Course

variable {v : Visit σ} {p : Checkpoint} {ps : List Checkpoint} {k : Findings} {w w' : World σ}
  {x : Sight} {e : Endpoint}

theorem course_refused {answer : Response} (hlook : p.look v k w = (x, w'))
    (hx : x.refusal? = some answer) : course v (p :: ps) k w = ⟨[x], w'⟩ := by
  simp only [course, hlook, hx]

theorem course_passed (hlook : p.look v k w = (x, w')) (hx : x.refusal? = none) :
    course v (p :: ps) k w =
      ⟨x :: (course v ps (k.note x) w').sights, (course v ps (k.note x) w').world⟩ := by
  simp only [course, hlook, hx]

/-- A sight at which the request is turned away decides, whatever has been passed before. -/
theorem verdict_refused {answer : Response} (hx : x.refusal? = some answer) (rest : List Sight) :
    verdict e k (x :: rest) = answer := by
  rw [verdict, List.findSome?_cons, hx]
  rfl

/-- A sight that is passed leaves the decision to the rest. -/
theorem verdict_passed (hx : x.refusal? = none) (rest : List Sight) :
    verdict e k (x :: rest) = verdict e (k.note x) rest := by
  rw [verdict, List.findSome?_cons, hx]
  rfl

/-- **Nothing is seen after a refusal.** -/
theorem course_stops {pre post : List Sight} {answer : Response}
    (h : (course v ps k w).sights = pre ++ x :: post) (hx : x.refusal? = some answer) :
    post = [] ∧ verdict e k (course v ps k w).sights = answer := by
  induction ps generalizing k w pre with
  | nil =>
    rw [course] at h
    simp at h
  | cons p ps ih =>
    rcases hlook : p.look v k w with ⟨y, w'⟩
    cases hy : y.refusal? with
    | some first =>
      rw [course_refused hlook hy] at h ⊢
      cases pre with
      | nil =>
        obtain ⟨rfl, hpost⟩ := List.cons.inj h
        exact ⟨hpost.symm, verdict_refused hx []⟩
      | cons z pre =>
        have hnil := (List.cons.inj h).2
        simp at hnil
    | none =>
      rw [course_passed hlook hy] at h ⊢
      cases pre with
      | nil =>
        obtain ⟨rfl, -⟩ := List.cons.inj h
        rw [hx] at hy
        cases hy
      | cons z pre =>
        obtain ⟨hpost, hverdict⟩ := ih (List.cons.inj h).2
        exact ⟨hpost, (verdict_passed hy _).trans hverdict⟩

theorem look_counts (hlook : p.look v k w = (x, w')) :
    w'.readings = w.readings + [x].countP Sight.isReading ∧
      w'.draws = w.draws + [x].countP Sight.isDraw := by
  cases p <;> (cases hlook; exact ⟨rfl, rfl⟩)

/-- **The clock is read and ids are drawn at their checkpoints only.** -/
theorem course_counts (v : Visit σ) (ps : List Checkpoint) (k : Findings) (w : World σ) :
    (course v ps k w).world.readings =
        w.readings + (course v ps k w).sights.countP Sight.isReading ∧
      (course v ps k w).world.draws = w.draws + (course v ps k w).sights.countP Sight.isDraw := by
  induction ps generalizing k w with
  | nil => exact ⟨rfl, rfl⟩
  | cons p ps ih =>
    rcases hlook : p.look v k w with ⟨x, w'⟩
    obtain ⟨hreadings, hdraws⟩ := look_counts hlook
    cases hx : x.refusal? with
    | some answer =>
      rw [course_refused hlook hx]
      exact ⟨hreadings, hdraws⟩
    | none =>
      rw [course_passed hlook hx]
      obtain ⟨ihreadings, ihdraws⟩ := ih (k.note x) w'
      dsimp only
      rw [← List.singleton_append, List.countP_append, List.countP_append, ihreadings, ihdraws,
        hreadings, hdraws, Nat.add_assoc, Nat.add_assoc]
      exact ⟨rfl, rfl⟩

end Course

/-! ## Two visits -/

/-- Two visits meet the same at a checkpoint: it looks at nothing in which they differ. -/
def Checkpoint.Alike {σ τ : Type} (v : Visit σ) (v' : Visit τ) (k : Findings) (w : World σ)
    (w' : World τ) : Checkpoint → Prop
  | path => segment? v.request = segment? v'.request
  | body => v.request.body = v'.request.body
  | manager => v.context.hasDatabase = v'.context.hasDatabase
  | validation => v.context.validator k.draft = v'.context.validator k.draft
  | page => v.request.query = v'.request.query
  | clock => v.supply.clock w.readings = v'.supply.clock w'.readings
  | draw => v.supply.ids w.draws = v'.supply.ids w'.draws
  | storage call =>
    (v.backend.perform (call k) w.store).1 = (v'.backend.perform (call k) w'.store).1
  | presence => True

/-- Two visits meet the same at the first `n` checkpoints. Nothing is said of what they bring to the
checkpoints after these, nor of the worlds beyond what is answered at these. -/
def Agree {σ τ : Type} (v : Visit σ) (v' : Visit τ) :
    Nat → List Checkpoint → Findings → World σ → World τ → Prop
  | n + 1, p :: ps, k, w, w' =>
    p.Alike v v' k w w' ∧
      Agree v v' n ps (k.note (p.look v k w).1) (p.look v k w).2 (p.look v' k w').2
  | _, _, _, _, _ => True

section Agree

variable {τ : Type} {v : Visit σ} {v' : Visit τ} {k : Findings} {w : World σ} {w' : World τ}

theorem look_of_alike {p : Checkpoint} (h : p.Alike v v' k w w') :
    (p.look v' k w').1 = (p.look v k w).1 := by
  cases p with
  | path => exact congrArg (fun raw => Sight.path (raw.bind AlbumId.read?)) h.symm
  | body => exact congrArg (fun bytes => Sight.body (Draft.read? bytes)) h.symm
  | manager => exact congrArg Sight.manager h.symm
  | validation => exact congrArg Sight.validation h.symm
  | page =>
    exact congrArg (fun query => Sight.page (Page.parse (lastParameter? query "page_size")
      (lastParameter? query "page_number"))) h.symm
  | clock => exact congrArg Sight.clock h.symm
  | draw => exact congrArg Sight.drawn h.symm
  | storage call => exact congrArg (fun answer => Sight.stored ⟨call k, answer⟩) h.symm
  | presence => rfl

/-- **Visits that agree at all checkpoints that one of them reaches see the same**, and the other one
reaches no more. -/
theorem sights_of_agree {ps : List Checkpoint} {n : Nat}
    (hn : (course v ps k w).sights.length ≤ n) (h : Agree v v' n ps k w w') :
    (course v' ps k w').sights = (course v ps k w).sights := by
  induction ps generalizing k w w' n with
  | nil => rfl
  | cons p ps ih =>
    rcases hlook : p.look v k w with ⟨x, u⟩
    rcases hlook' : p.look v' k w' with ⟨x', u'⟩
    cases n with
    | zero =>
      -- Something is seen at the first checkpoint, so that one sight at least has been counted.
      cases hx : x.refusal? with
      | some answer =>
        rw [course_refused hlook hx] at hn
        cases hn
      | none =>
        rw [course_passed hlook hx] at hn
        cases hn
    | succ n =>
      obtain ⟨halike, hagree⟩ := h
      have hsame : x' = x := by
        have hfirst := look_of_alike halike
        rwa [hlook, hlook'] at hfirst
      subst hsame
      rw [hlook, hlook'] at hagree
      cases hx : x'.refusal? with
      | some answer => rw [course_refused hlook hx, course_refused hlook' hx]
      | none =>
        rw [course_passed hlook hx] at hn ⊢
        rw [course_passed hlook' hx]
        exact congrArg (x' :: ·) (ih (Nat.le_of_succ_le_succ hn) hagree)

end Agree

end Discography.Api
