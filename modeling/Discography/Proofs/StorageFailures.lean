import Discography.Proofs.EndpointCalls

/-!
# Failures of the storage

Whatever a storage call fails with, the endpoint that made it asks nothing more. The failure is
reported once and the request answered as an internal error, whichever endpoint, call and failure it
was; what the failure says of itself, even a status of its own, counts for nothing. Only the failure
that tells that no album was found is answered as such.

* `asked_eq_of_failed` — a call that fails is the last one.
* `storage_failures_uniform` — the response to a request one of whose calls fails, and its reports.
-/

set_option autoImplicit false

namespace Discography.Api

open Discography.Log Discography.Store Discography.Http

variable {σ : Type}

/-- The errors among events. -/
def errorsOf (events : List Event) : List Event := events.filter (·.level == .error)

section Failed

variable {b : Backend σ} {s : Supply} {ctx : Context} {r : Request} {w : World σ}
  {pre post : List Asked} {c : Call}

/-- A call that fails with anything but a missing album ends the run with an internal error, and its
report is the only one of an error. -/
theorem run_of_failed {f : Failure} (hf : f ≠ .notFound)
    (h : (respond ctx r).asked b s w = pre ++ ⟨c, .error f⟩ :: post) :
    post = [] ∧ ((respond ctx r).run b s w).value = .message 500 Failure.internalMessage ∧
      errorsOf ((respond ctx r).run b s w).events = [callFailed c (about? r c) f] := by
  obtain ⟨before, next, w', hanswering, hpost, hvalue, hevents⟩ :=
    (calls_respond ctx r).exists_run h
  rw [hanswering.failed f hf] at hpost hvalue hevents
  rw [hanswering.unreported] at hevents
  refine ⟨hpost, hvalue, ?_⟩
  rw [show ((respond ctx r).run b s w).events = _ from hevents]
  rfl

/-- A call that finds no album ends the run with an empty page or as not found, without a report of
an error. -/
theorem run_of_missing
    (h : (respond ctx r).asked b s w = pre ++ ⟨c, .error .notFound⟩ :: post) :
    post = [] ∧
      ((respond ctx r).run b s w).value =
        (if c.isListing then .json 200 (.array []) else .message 404 "album not found") ∧
      errorsOf ((respond ctx r).run b s w).events = [] := by
  obtain ⟨before, next, w', hanswering, hpost, hvalue, hevents⟩ :=
    (calls_respond ctx r).exists_run h
  rw [hanswering.missing] at hpost hvalue hevents
  rw [hanswering.unreported] at hevents
  by_cases hlisting : c.isListing = true
  · rw [if_pos hlisting] at hpost hvalue hevents ⊢
    refine ⟨hpost, hvalue, ?_⟩
    rw [show ((respond ctx r).run b s w).events = _ from hevents]
    rfl
  · rw [if_neg hlisting] at hpost hvalue hevents ⊢
    refine ⟨hpost, hvalue, ?_⟩
    rw [show ((respond ctx r).run b s w).events = _ from hevents]
    rfl

end Failed

/-- **Failures of the storage are answered alike.** Let any call of any request fail, whatever storage
answers the calls and whatever it fails with. Then the request asks nothing more. Unless no album was
found, it is answered with 500 and the same message, and one error is reported: with what the call
does, with the text of the failure, and with the id of the album that the call is about. That is the
id that is looked for or removed, the id that the request names for a change and the id of a new
album; only a listing is about none. If no album was found, a listing is answered as empty, anything
else with 404, and no error is reported. -/
theorem storage_failures_uniform (b : Backend σ) (s : Supply) (ctx : Context) (r : Request)
    (w : World σ) {pre post : List Asked} {c : Call} {f : Failure}
    (h : (respondWithinScope ctx r).asked b s w = pre ++ ⟨c, .error f⟩ :: post) :
    let o := (respondWithinScope ctx r).run b s w
    post = [] ∧ o.calls = pre.map Asked.call ++ [c] ∧
      ((about? r c).isSome = !c.isListing ∧ ∀ u, c.sought? = some u → about? r c = some u) ∧
      (f ≠ .notFound → o.value = .message 500 "internal error" ∧
        errorsOf o.events =
          [{ level := .error, logger := albumsLogger, message := c.description,
             extras := { error := some f.text, albumId := (about? r c).map AlbumId.text } }]) ∧
      (f = .notFound →
        o.value = (if c.isListing then .json 200 (.array []) else .message 404 "album not found") ∧
        errorsOf o.events = []) := by
  intro o
  have ho : o = (respond ctx r).run b s w := by rw [← respondWithinScope_eq]
  rw [respondWithinScope_eq] at h
  obtain ⟨before, next, w', hanswering, -, -, -⟩ := (calls_respond ctx r).exists_run h
  have hpost : post = [] := by
    by_cases hf : f = .notFound
    · subst hf
      exact (run_of_missing h).1
    · exact (run_of_failed hf h).1
  refine ⟨hpost, ?_, ⟨hanswering.about, hanswering.own⟩, fun hf => ?_, fun hf => ?_⟩
  · rw [ho, ← Plan.map_call_asked, h, hpost, List.map_append]
    rfl
  · rw [ho]
    exact (run_of_failed hf h).2
  · subst hf
    rw [ho]
    exact (run_of_missing h).2

/-- A storage all of whose calls fail. -/
def failing (f : Failure) : Backend Unit := ⟨fun _ x => (.error f, x), fun _ => .ok ()⟩

/-- An error of the catalog with a status of its own, from a storage to which an album is added under
the id zero. -/
theorem storage_failures_uniform_custom :
    let f : Failure := .custom "short and stout" "TEAPOT" .validation .info 418
    let o := (respondWithinScope catalog adding).run (failing f) standstill ⟨(), 0, 0⟩
    (respondWithinScope catalog adding).asked (failing f) standstill ⟨(), 0, 0⟩ ≠ [] ∧
      o.value = .message 500 "internal error" ∧
      errorsOf o.events =
        [{ level := .error, logger := albumsLogger, message := "inserting album into the storage",
           extras := { error := some "short and stout",
                       albumId := some "00000000-0000-0000-0000-000000000000" } }] := by
  intro f o
  let a := Album.create default ⟨"Blue", "Joni", 1⟩ (.utc default)
  have hcalls : o.calls = [.insert a] := by decide +kernel
  rw [← Plan.map_call_asked, List.map_eq_singleton_iff] at hcalls
  obtain ⟨⟨c, answer⟩, hasked, rfl⟩ := hcalls
  have hmem : (⟨.insert a, answer⟩ : Asked) ∈
      (respondWithinScope catalog adding).asked (failing f) standstill ⟨(), 0, 0⟩ := by
    rw [hasked]
    exact List.mem_singleton_self _
  obtain ⟨x, hx⟩ := Plan.exists_perform_of_mem_asked hmem
  have hanswer : answer = .error f := hx
  subst hanswer
  obtain ⟨-, -, -, hfailed, -⟩ := storage_failures_uniform (failing f) standstill catalog adding
    ⟨(), 0, 0⟩ (hasked.trans (List.nil_append _).symm)
  obtain ⟨hvalue, herrors⟩ := hfailed (by decide)
  refine ⟨List.ne_nil_of_mem hmem, hvalue, ?_⟩
  rw [herrors]
  decide +kernel

end Discography.Api
