import Discography.Http.Message
import Discography.Log.Event

/-!
# Replies to failures

How a failure of an endpoint is answered. An error of the catalog is answered with its own status
and message and reported for debugging only, since grave ones have been reported where they arose.
Typed parameters that cannot be read make a malformed request, and a response that the framework
makes up is sent as it is. Any other failure is answered as an internal error that shows nothing of
it, and is reported here.
-/

set_option autoImplicit false

namespace Discography.Api

open Discography.Log Discography.Http

/-- A response and the events that were reported on the way. -/
abbrev Answered := Response × List Event

/-- The logger of the replies to failures. -/
def repliesLogger : String := "album_catalog.api.error_handlers"

/-- The body of the response to an error of the catalog. -/
def failureBody (f : Failure) (message : String) : Json.Value :=
  .object (("message", .text message) ::
    match f with
    | .invalid problems => [("problems", .object (problems.map fun p => (p.1, .text p.2)))]
    | _ => [])

/-- The response to a request whose typed parameters cannot be read, and the report on it. -/
def malformedReply (r : Request) : Answered :=
  (.message 400 "malformed request",
    [{ level := .debug, logger := repliesLogger,
       message := "Malformed request on " ++ r.shownPath }])

/-- Whether a response of a status may have a body. -/
def allowsBody (status : Int) : Bool := 200 ≤ status && status ∉ [204, 205, 304]

/-- The response that the framework makes up, of which nothing is reported. -/
def frameworkReply (status : Int) (detail : String) : Answered :=
  (if allowsBody status then .detail status detail else { status, body := none }, [])

/-- The response to any other failure, and the report on it. -/
def unhandledReply (r : Request) (f : Failure) : Answered :=
  (.message 500 Failure.internalMessage,
    [{ level := .error, logger := repliesLogger,
       message := "Unhandled exception on " ++ r.shownPath,
       extras := { error := some f.text, path := some r.shownPath },
       failure := some f.kindName }])

/-- The response to an error of the catalog, and the report on it. -/
def catalogReply (r : Request) (f : Failure) (terms : Failure.Terms) : Answered :=
  (.json terms.status (failureBody f terms.message),
    [{ level := .debug, logger := repliesLogger, message := "CatalogError: " ++ f.text,
       extras := { errorCode := some terms.code, path := some r.shownPath,
                   method := some r.method, operation := f.operation? } }])

/-- The response to a failure of a request, and what is reported of it. -/
def reply (r : Request) (f : Failure) : Answered :=
  match f.terms?, f with
  | some terms, _ => catalogReply r f terms
  | none, .http status detail => frameworkReply status detail
  | none, .unreadable _ => malformedReply r
  | none, _ => unhandledReply r f

end Discography.Api
