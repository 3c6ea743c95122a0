import Discography.Album.Id
import Discography.Calendar.Stamp

/-!
# Albums

An album has an id, a title, an artist, a price and the stamps of its creation and last change. The
part that a client writes is a draft, which has to pass validation.

* `Stamp.atUtc` is a stamp taken to UTC, or the failure to do so.
* `Draft.problems_eq_nil_iff` — a draft has no problems exactly when its texts have 1 to 255
  characters and its price is positive.
-/

set_option autoImplicit false

namespace Discography

open Discography.Calendar

/-- A stamp at UTC, unless its UTC date is outside the calendar. A stamp without an offset is taken
as UTC. -/
def Calendar.Stamp.atUtc (s : Stamp) : Except Failure Stamp :=
  match s.toUtc? with
  | some w => .ok (.utc w)
  | none => .error .dateOutOfRange

/-- What a client says about an album. -/
structure Draft where
  title : String
  artist : String
  price : Int
  deriving DecidableEq, Repr, Inhabited

/-- An album of the catalog. -/
structure Album where
  id : AlbumId
  title : String
  artist : String
  price : Int
  created : Stamp
  updated : Stamp
  deriving DecidableEq, Repr, Inhabited

/-- The greatest number of characters of a title or an artist. -/
def maxTextLength : Nat := 255

/-- What is wrong with a title or an artist. -/
def textProblem? (s : String) : Option String :=
  if s.length = 0 then some "is empty"
  else if maxTextLength < s.length then some "is longer than 255 characters"
  else none

/-- What is wrong with a price. -/
def priceProblem? (price : Int) : Option String :=
  if price ≤ 0 then some "is not greater than zero" else none

/-- A validator of drafts. -/
abbrev Validator := Draft → Problems

namespace Draft

/-- The problems of a draft, one for each field that has one. -/
def problems (d : Draft) : Problems :=
  ((textProblem? d.title).map fun p => ("title", p)).toList ++
    ((textProblem? d.artist).map fun p => ("artist", p)).toList ++
    ((priceProblem? d.price).map fun p => ("price", p)).toList

theorem textProblem?_eq_none_iff {s : String} :
    textProblem? s = none ↔ 1 ≤ s.length ∧ s.length ≤ maxTextLength := by
  unfold textProblem?
  split
  · simp; omega
  · split
    · simp; omega
    · simp; omega

theorem problems_eq_nil_iff {d : Draft} :
    d.problems = [] ↔ (1 ≤ d.title.length ∧ d.title.length ≤ maxTextLength) ∧
      (1 ≤ d.artist.length ∧ d.artist.length ≤ maxTextLength) ∧ 0 < d.price := by
  rw [← textProblem?_eq_none_iff, ← textProblem?_eq_none_iff]
  have hp : priceProblem? d.price = none ↔ 0 < d.price := by
    unfold priceProblem?
    split
    · simp; omega
    · simp; omega
  rw [← hp]
  unfold problems
  cases textProblem? d.title <;> cases textProblem? d.artist <;>
    cases priceProblem? d.price <;> simp

end Draft

namespace Album

/-- A new album of a draft, created and changed at the same moment. -/
def create (id : AlbumId) (d : Draft) (now : Stamp) : Album :=
  ⟨id, d.title, d.artist, d.price, now, now⟩

/-- An album with what a draft says, changed at a moment. -/
def withDraft (a : Album) (d : Draft) (now : Stamp) : Album :=
  { a with title := d.title, artist := d.artist, price := d.price, updated := now }

/-- Whether two albums are equal field by field, stamps by the moment they denote. -/
def same (a b : Album) : Bool :=
  a.id == b.id && a.title == b.title && a.artist == b.artist && a.price == b.price &&
    a.created.same b.created && a.updated.same b.updated

end Album

end Discography
