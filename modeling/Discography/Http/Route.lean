import Discography.Http.Message

/-!
# Routes

A route has a pattern for paths, the methods it serves and what it leads to. The first route that
matches path and method is taken. A path that only matches other methods is not allowed, a path that
matches without its trailing slashes is redirected, and any other path is not found.

* `find_endpoint` — what is taken belongs to a route of the list that serves the method.
-/

set_option autoImplicit false

namespace Discography.Http

/-- A pattern for paths. -/
inductive Pattern where
  /-- One path. -/
  | exactly (path : String)
  /-- One segment that is not empty below a path. -/
  | below (path : String)
  deriving DecidableEq, Repr

/-- The segment of a path that a pattern captures, if it matches; nothing is captured by a single
path, which may be followed by one line feed. -/
def Pattern.capture? (p : Pattern) (path : String) : Option String :=
  match p with
  | .exactly q => if path = q ∨ path = q ++ "\n" then some "" else none
  | .below q =>
    let base := (q ++ "/").toList
    let rest := path.toList.drop base.length
    if base.isPrefixOf path.toList && !rest.isEmpty && !rest.contains '/' then
      some (String.ofList rest)
    else none

/-- A route to something of a type. -/
structure Route (ε : Type) where
  pattern : Pattern
  methods : List String
  target : String → ε

/-- Where a request is routed to. -/
inductive Routed (ε : Type) where
  | endpoint (e : ε)
  | notAllowed (methods : List String)
  | redirect (path : String)
  | unknown

/-- Whether some route matches a path, with any method. -/
def matchesPath {ε : Type} (routes : List (Route ε)) (path : String) : Bool :=
  routes.any fun r => (r.pattern.capture? path).isSome

/-- The target of the first route that matches path and method. -/
def endpoint? {ε : Type} (routes : List (Route ε)) (method path : String) : Option ε :=
  routes.findSome? fun r =>
    if r.methods.contains method then (r.pattern.capture? path).map r.target else none

/-- A path without its trailing slashes, if it has some and is not the root. -/
def withoutSlashes? (path : String) : Option String :=
  let kept := (path.toList.reverse.dropWhile (· == '/')).reverse
  if path = "/" ∨ kept = path.toList then none else some (String.ofList kept)

/-- Where a request is routed to. -/
def find {ε : Type} (routes : List (Route ε)) (method path : String) : Routed ε :=
  match endpoint? routes method path with
  | some e => .endpoint e
  | none =>
    match routes.find? fun r => (r.pattern.capture? path).isSome with
    | some r => .notAllowed r.methods
    | none =>
      match withoutSlashes? path with
      | some kept => if matchesPath routes kept then .redirect kept else .unknown
      | none => .unknown

theorem find_endpoint {ε : Type} {routes : List (Route ε)} {method path : String} {e : ε}
    (h : find routes method path = .endpoint e) : endpoint? routes method path = some e := by
  unfold find at h
  split at h
  · next x hx => cases h; exact hx
  · split at h
    · cases h
    · split at h
      · split at h <;> cases h
      · cases h

/-- The response to a request that no endpoint serves. -/
def unserved {ε : Type} (r : Request) : Routed ε → Response
  | .notAllowed methods => { Response.detail 405 "Method Not Allowed" with allow := methods }
  | .redirect path => { status := 307, body := none, location := some (location path r.query) }
  | .endpoint _ | .unknown => .detail 404 "Not Found"

end Discography.Http
