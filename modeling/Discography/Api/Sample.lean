import Discography.Api.Reply
import Discography.Http.Route
import Discography.Settings.Value

/-!
# A sample service

A service of two routes that shows how failures are answered: one route reads an integer from the
query, the other fails with a given failure.

* `sampleResponse_raise` — a failure is answered and reported as by the catalog.
-/

set_option autoImplicit false

namespace Discography.Api

open Discography.Log Discography.Http

/-- The answer to a request for the integer of its query. -/
def answerCount (r : Request) : Answered :=
  match (lastParameter? r.query "count").map Settings.integerOfText with
  | some (.ok n) => (.json 200 (.object [("count", .integer n)]), [])
  | _ => malformedReply r

/-- The routes of the sample service. -/
def sampleRoutes (r : Request) (f : Failure) : List (Route Answered) :=
  [⟨.exactly "/typed", ["GET"], fun _ => answerCount r⟩,
   ⟨.exactly "/raise", ["GET", "POST"], fun _ => reply r f⟩]

/-- What the sample service answers to a request. -/
def sampleResponse (r : Request) (f : Failure) : Answered :=
  match find (sampleRoutes r f) r.method r.path with
  | .endpoint a => a
  | other => (unserved r other, [])

theorem sampleResponse_raise {r : Request} (hm : r.method = "GET" ∨ r.method = "POST")
    (hp : r.path = "/raise") (f : Failure) : sampleResponse r f = reply r f := by
  have h : find (sampleRoutes r f) r.method r.path = .endpoint (reply r f) := by
    rw [hp]
    rcases hm with hm | hm <;> rw [hm] <;> simp [find, endpoint?, sampleRoutes, Pattern.capture?]
  rw [sampleResponse, h]

end Discography.Api
