import Discography.Api.Endpoint
import Discography.Api.Reply
import Discography.Http.Route

/-!
# The service

The routes of the catalog, and what the service does for a request and for a series of requests.

* `respond` is the plan of a request; `serve` runs one over a backend, `serveAll` several in turn.
* `respondWithinScope` is the same plan with the scope of the session around the endpoint.
-/

set_option autoImplicit false

namespace Discography.Api

open Discography.Log Discography.Store Discography.Http

/-- The routes of the catalog, in the order in which they are tried. -/
def routes (r : Request) : List (Route Endpoint) :=
  [⟨.exactly "/health", ["GET"], fun _ => .health⟩,
   ⟨.exactly "/health/ready", ["GET"], fun _ => .readiness⟩,
   ⟨.exactly "/albums", ["POST"], fun _ => .createAlbum r.body⟩,
   ⟨.exactly "/albums", ["GET"], fun _ => .listAlbums r.query⟩,
   ⟨.below "/albums", ["GET"], fun id => .getAlbum id⟩,
   ⟨.below "/albums", ["PUT"], fun id => .updateAlbum id r.body⟩,
   ⟨.below "/albums", ["DELETE"], fun id => .deleteAlbum id⟩]

/-- The plan of a request. -/
def respond (ctx : Context) (r : Request) : Plan Response :=
  match find (routes r) r.method r.path with
  | .endpoint e =>
    (planOf ctx e).bind fun
      | .ok response => .done response
      | .error f => .reportAll (reply r f).2 (.done (reply r f).1)
  | other => .done (unserved r other)

/-- The plan of an endpoint within the scope of the session that it works on. A failure that leaves
the endpoint passes through the scope, which converts and reports failures of the database layer. -/
def withinScope (p : Plan (Except Failure Response)) : Plan (Except Failure Response) :=
  p.bind fun outcome => .reportAll (close outcome).2 (.done (close outcome).1)

/-- The plan of a request whose endpoint works within the scope of a session. -/
def respondWithinScope (ctx : Context) (r : Request) : Plan Response :=
  match find (routes r) r.method r.path with
  | .endpoint e =>
    (withinScope (planOf ctx e)).bind fun
      | .ok response => .done response
      | .error f => .reportAll (reply r f).2 (.done (reply r f).1)
  | other => .done (unserved r other)

variable {σ : Type}

/-- What a request comes to over a backend. -/
def serve (b : Backend σ) (s : Supply) (ctx : Context) (r : Request) (w : World σ) :
    Outcome σ Response :=
  (respond ctx r).run b s w

/-- What requests come to over a backend, each after the one before. -/
def serveAll (b : Backend σ) (s : Supply) (ctx : Context) :
    List Request → World σ → List (Outcome σ Response)
  | [], _ => []
  | r :: rs, w =>
    let first := serve b s ctx r w
    first :: serveAll b s ctx rs first.world

/-- The world after a list of requests. -/
def worldAfter (b : Backend σ) (s : Supply) (ctx : Context) (rs : List Request) (w : World σ) :
    World σ :=
  rs.foldl (fun w r => (serve b s ctx r w).world) w

end Discography.Api
