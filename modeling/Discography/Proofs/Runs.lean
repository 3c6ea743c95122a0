import Discography.Proofs.Effects

/-!
# Runs of requests

A run serves requests one after the other. It leaves a history: each request with its response and
the ids that were drawn for it.

* `exists_of_exchanges_eq_append` — the two parts of a history are histories of two parts of a run.
* `run_invariant` — what every effect of a request keeps holds after every run.
-/

set_option autoImplicit false

namespace Discography.Api

open Discography.Store Discography.Http

/-- A request that was served, its response, and the ids that were drawn for it. -/
structure Exchange where
  request : Request
  response : Response
  drawn : List AlbumId

variable {σ : Type}

/-- A request served in a world, with what came of it. -/
def exchange (b : Backend σ) (s : Supply) (ctx : Context) (r : Request) (w : World σ) : Exchange :=
  let o := serve b s ctx r w
  ⟨r, o.value, (List.range' w.draws (o.world.draws - w.draws)).map s.ids⟩

/-- The history of requests that are served in turn. -/
def exchanges (b : Backend σ) (s : Supply) (ctx : Context) : List Request → World σ → List Exchange
  | [], _ => []
  | r :: rs, w => exchange b s ctx r w :: exchanges b s ctx rs (serve b s ctx r w).world

/-- A catalog without albums, before anything has been read or drawn. -/
def emptyCatalog : World Database := { store := .table .empty }

/-- A clock that stands still at UTC, and one id that is drawn again and again. -/
def standstill : Supply := ⟨fun _ => .utc default, fun _ => default⟩

/-- A request that adds an album. -/
def adding : Request :=
  ⟨"POST", "/albums", "", "\x7b\"title\":\"Blue\",\"artist\":\"Joni\",\"price\":1\x7d".toUTF8⟩

theorem exists_of_exchanges_eq_cons {b : Backend σ} {s : Supply} {ctx : Context}
    {rs : List Request} {w : World σ} {e : Exchange} {post : List Exchange}
    (h : exchanges b s ctx rs w = e :: post) :
    ∃ r rs', rs = r :: rs' ∧ exchange b s ctx r w = e ∧
      exchanges b s ctx rs' (serve b s ctx r w).world = post := by
  cases rs with
  | nil => cases h
  | cons r rs' =>
    obtain ⟨he, hpost⟩ := List.cons.inj h
    exact ⟨r, rs', rfl, he, hpost⟩

/-- The parts of a history are the histories of the parts of a run. -/
theorem exists_of_exchanges_eq_append {b : Backend σ} {s : Supply} {ctx : Context}
    {rs : List Request} {w : World σ} {pre post : List Exchange}
    (h : exchanges b s ctx rs w = pre ++ post) :
    ∃ rs₁ rs₂, rs = rs₁ ++ rs₂ ∧ exchanges b s ctx rs₁ w = pre ∧
      exchanges b s ctx rs₂ (worldAfter b s ctx rs₁ w) = post := by
  induction pre generalizing rs w with
  | nil => exact ⟨[], rs, rfl, rfl, h⟩
  | cons e pre ih =>
    obtain ⟨r, rs, rfl, rfl, ht⟩ := exists_of_exchanges_eq_cons h
    obtain ⟨rs₁, rs₂, rfl, hpre, hpost⟩ := ih ht
    exact ⟨r :: rs₁, rs₂, rfl, by rw [exchanges, hpre], hpost⟩

/-- **Induction over runs.** What holds of a table, a world and a history, and is kept by every effect
that a request can have, holds after every run. -/
theorem run_invariant {s : Supply} {ctx : Context} (hd : ctx.hasDatabase = true)
    {P : Table → World Database → List Exchange → Prop}
    (step : ∀ (r : Request) (t t' : Table) (w : World Database) (h : List Exchange),
      P t w h → Effect s ctx r t w (serve .database s ctx r w) t' →
        P t' (serve .database s ctx r w).world (h ++ [exchange .database s ctx r w])) :
    ∀ (rs : List Request) (t : Table) (w : World Database) (h : List Exchange),
      w.store = .table t → P t w h →
        ∃ t', (worldAfter .database s ctx rs w).store = .table t' ∧
          P t' (worldAfter .database s ctx rs w) (h ++ exchanges .database s ctx rs w) := by
  intro rs
  induction rs with
  | nil =>
    intro t w h hw hP
    exact ⟨t, hw, by rwa [exchanges, List.append_nil]⟩
  | cons r rs ih =>
    intro t w h hw hP
    obtain ⟨t₁, hw₁, he⟩ := hasEffect (r := r) (s := s) hd hw
    obtain ⟨t', hw', hP'⟩ := ih t₁ _ _ hw₁ (step r t t₁ w h hP he)
    refine ⟨t', hw', ?_⟩
    rw [List.append_assoc] at hP'
    exact hP'

end Discography.Api
