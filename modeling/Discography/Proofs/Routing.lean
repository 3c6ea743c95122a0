import Discography.Api.Service

/-!
# Which requests reach which endpoint

A request for one album names it by the last segment of its path. Reading the segment as an id gives
the album that the request is about.

* `capture?_below_eq_some_iff` — what one segment below a path is.
* `reaches_of_find` — the method and the parts of a request that an endpoint has been given.
* `find_createAlbum`, `find_getAlbum`, `find_updateAlbum`, `find_listAlbums` — requests that reach
  these endpoints.
-/

set_option autoImplicit false

namespace Discography.Http

theorem capture?_below_eq_some_iff {q path raw : String} :
    (Pattern.below q).capture? path = some raw ↔
      path = q ++ "/" ++ raw ∧ raw ≠ "" ∧ '/' ∉ raw.toList := by
  unfold Pattern.capture?
  simp only [Bool.and_eq_true, Bool.not_eq_true', Option.ite_none_right_eq_some, Option.some.injEq,
    List.isPrefixOf_iff_prefix, List.isEmpty_eq_false_iff, List.contains_eq_mem, decide_eq_false_iff_not]
  constructor
  · rintro ⟨⟨⟨⟨rest, hp⟩, hne⟩, hs⟩, rfl⟩
    rw [← hp, List.drop_left] at hne hs ⊢
    refine ⟨?_, ?_, by simpa using hs⟩
    · rw [← String.toList_inj, String.toList_append, String.toList_ofList, hp]
    · intro h
      have := congrArg String.toList h
      simp at this
      exact hne this
  · rintro ⟨rfl, hne, hs⟩
    have hp : (q ++ "/" ++ raw).toList = (q ++ "/").toList ++ raw.toList := String.toList_append
    rw [hp, List.drop_left]
    refine ⟨⟨⟨⟨raw.toList, rfl⟩, ?_⟩, hs⟩, String.ofList_toList⟩
    intro h
    exact hne (String.toList_eq_nil_iff.1 h)

end Discography.Http

namespace Discography.Api

open Discography.Http

/-- The segment of the path of a request for one album. -/
def segment? (r : Request) : Option String := (Pattern.below "/albums").capture? r.path

/-- The album that a request is about. -/
def named? (r : Request) : Option AlbumId := (segment? r).bind AlbumId.read?

/-- What a request is like that reaches an endpoint. -/
def Reaches (r : Request) : Endpoint → Prop
  | .health | .readiness => r.method = "GET"
  | .createAlbum body => r.method = "POST" ∧ body = r.body
  | .listAlbums query => r.method = "GET" ∧ query = r.query
  | .getAlbum raw => r.method = "GET" ∧ segment? r = some raw
  | .updateAlbum raw body => r.method = "PUT" ∧ segment? r = some raw ∧ body = r.body
  | .deleteAlbum raw => r.method = "DELETE" ∧ segment? r = some raw

theorem reaches_of_find {r : Request} {e : Endpoint}
    (h : find (routes r) r.method r.path = .endpoint e) : Reaches r e := by
  have h := find_endpoint h
  obtain ⟨route, hr, he⟩ := List.exists_of_findSome?_eq_some h
  simp only [Option.ite_none_right_eq_some, Option.map_eq_some_iff] at he
  obtain ⟨hm, raw, hc, rfl⟩ := he
  simp only [routes, List.mem_cons, List.not_mem_nil, or_false] at hr
  rcases hr with rfl | rfl | rfl | rfl | rfl | rfl | rfl <;>
    simp_all [Reaches, segment?]

/-- The paths of the other endpoints have no segment below the albums. -/
theorem capture?_exactly_of_segment? {r : Request} {raw : String} (h : segment? r = some raw) :
    (Pattern.exactly "/health").capture? r.path = none ∧
      (Pattern.exactly "/health/ready").capture? r.path = none ∧
      (Pattern.exactly "/albums").capture? r.path = none := by
  obtain ⟨hp, -, -⟩ := capture?_below_eq_some_iff.1 h
  have hl : r.path.toList = "/albums/".toList ++ raw.toList := by
    rw [hp, String.toList_append]
    rfl
  have hne (q : String) (hq : q.toList.take 8 ≠ "/albums/".toList) : r.path ≠ q := by
    rintro rfl
    rw [hl] at hq
    exact hq rfl
  simp only [Pattern.capture?, ite_eq_right_iff, reduceCtorEq, imp_false, not_or]
  exact ⟨⟨hne _ (by decide), hne _ (by decide)⟩, ⟨hne _ (by decide), hne _ (by decide)⟩,
    hne _ (by decide), hne _ (by decide)⟩

theorem find_createAlbum {r : Request} (hm : r.method = "POST") (hp : r.path = "/albums") :
    find (routes r) r.method r.path = .endpoint (.createAlbum r.body) := by
  simp [find, endpoint?, routes, Pattern.capture?, hm, hp]

theorem find_getAlbum {r : Request} {raw : String} (hm : r.method = "GET")
    (h : segment? r = some raw) : find (routes r) r.method r.path = .endpoint (.getAlbum raw) := by
  obtain ⟨h1, h2, h3⟩ := capture?_exactly_of_segment? h
  unfold segment? at h
  simp [find, endpoint?, routes, hm, h, h1, h2, h3]

theorem find_updateAlbum {r : Request} {raw : String} (hm : r.method = "PUT")
    (h : segment? r = some raw) :
    find (routes r) r.method r.path = .endpoint (.updateAlbum raw r.body) := by
  unfold segment? at h
  simp [find, endpoint?, routes, hm, h]

theorem find_listAlbums {r : Request} (hm : r.method = "GET") (hp : r.path = "/albums") :
    find (routes r) r.method r.path = .endpoint (.listAlbums r.query) := by
  simp [find, endpoint?, routes, Pattern.capture?, hm, hp]

end Discography.Api
