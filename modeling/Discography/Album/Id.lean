import Discography.Failure
import Discography.Text.Numeral

/-!
# Album ids

An id is a number of 128 bits. Its canonical text is 32 lower-case digits in base sixteen, in
groups of 8, 4, 4, 4 and 12. Reading is more generous than writing.

* `read?_eq_some` — what is read is a literal of 32 characters between the decorations.
* `version_ofRandom` — an id made of random bits carries version 4.
-/

set_option autoImplicit false

namespace Discography

open Discography.Text

/-- The number of album ids. -/
def idLimit : Nat := 1 <<< 128

/-- The id of an album, a number of 128 bits. -/
structure AlbumId where
  value : Nat
  value_lt : value < idLimit
  deriving DecidableEq, Repr

namespace AlbumId

instance : Inhabited AlbumId := ⟨⟨0, by decide⟩⟩

/-- The id of a number, if it has 128 bits. -/
def ofNat? (n : Nat) : Option AlbumId := if h : n < idLimit then some ⟨n, h⟩ else none

/-- The 32 digits of an id in base sixteen. -/
def digits (id : AlbumId) : List Char := hexPadded 32 id.value

/-- The canonical text of an id. -/
def text (id : AlbumId) : String :=
  let ds := id.digits
  String.ofList (ds.take 8 ++ '-' :: (ds.drop 8).take 4 ++ '-' :: (ds.drop 12).take 4 ++
    '-' :: (ds.drop 16).take 4 ++ '-' :: ds.drop 20)

/-- The version number that an id carries. -/
def version (id : AlbumId) : Nat := id.value >>> 76 % 16

/-- The id made of the low 128 bits of a random number, with version 4 and the variant of its layout
in their places. -/
def ofRandom (n : Nat) : AlbumId where
  value := (n >>> 80 % 1 <<< 48) <<< 80 + 4 <<< 76 + (n >>> 64 % 1 <<< 12) <<< 64 + 2 <<< 62 +
    n % 1 <<< 62
  value_lt := by
    simp only [idLimit, Nat.shiftLeft_eq, Nat.one_mul]
    omega

theorem version_ofRandom (n : Nat) : (ofRandom n).version = 4 := by
  simp only [version, ofRandom, Nat.shiftLeft_eq, Nat.shiftRight_eq_div_pow, Nat.one_mul]
  omega

/-- The text of an id without its decorations: every `urn:`, then every `uuid:`, then the braces at
both ends, then every hyphen. -/
def bare (s : List Char) : List Char :=
  (trim (fun c => c == '\x7b' || c == '\x7d')
    (erase "uuid:".toList (erase "urn:".toList s))).filter (· != '-')

/-- The id that a text spells: 32 characters without the decorations that make up a literal in base
sixteen. -/
def read? (s : String) : Option AlbumId :=
  let body := bare s.toList
  if body.length = 32 then
    match hexLiteral? body with
    | some (.ofNat n) => ofNat? n
    | _ => none
  else none

theorem read?_eq_some {s : String} {id : AlbumId} (h : read? s = some id) :
    (bare s.toList).length = 32 ∧ hexLiteral? (bare s.toList) = some (id.value : Int) := by
  unfold read? at h
  simp only at h
  split at h
  · next hl =>
    split at h
    · next n hn =>
      unfold ofNat? at h
      split at h
      · cases h; exact ⟨hl, hn⟩
      · simp at h
    · simp at h
  · simp at h

/-- The id of a path segment. -/
def parse (raw : Option String) : Except Failure AlbumId :=
  match raw.bind read? with
  | some id => .ok id
  | none => .error (.malformed "malformed album id")

end AlbumId

end Discography
