import Discography.Album.Body
import Discography.Proofs.FlatObject
import Discography.Proofs.IdSpellings
import Discography.Proofs.StampTexts
import Discography.Store.Session

/-!
# A shown album tells the album

What is shown of an album is all there is of it. A reader that looks up the six members of the body,
and reads the id and the two stamps from their texts, gets the album back from every printed form of
it, if its stamps have no offset or one of whole minutes. The stamps of albums that come from the
storage are at UTC.

* `Album.ofShown?`, `Album.read?` — the reader of a body, and of a text that spells one.
* `Album.ofShown?_response`, `Album.read?_render` — it is a left inverse of showing and printing.
* `Store.Session.inMinutes_of_findOne` — what a storage answers is in the class of such albums.
* `response_mirrors_album` — so that nothing is lost.
-/

set_option autoImplicit false

namespace Discography

open Discography.Calendar Discography.Json Discography.Text

namespace Album

/-! ## Reading a body -/

/-- The text of the member of a body that counts for a name. -/
def shownText? (body : Value) (name : String) : Option String :=
  match body.get? name with
  | some (.text s) => some s
  | _ => none

/-- The integer of the member of a body that counts for a name. -/
def shownInteger? (body : Value) (name : String) : Option Int :=
  match body.get? name with
  | some (.integer n) => some n
  | _ => none

/-- The album that a body shows. -/
def ofShown? (body : Value) : Option Album := do
  let id ← (shownText? body "id").bind AlbumId.read?
  let title ← shownText? body "title"
  let artist ← shownText? body "artist"
  let price ← shownInteger? body "price"
  let created ← (shownText? body "created_at").bind Stamp.read?
  let updated ← (shownText? body "updated_at").bind Stamp.read?
  some ⟨id, title, artist, price, created, updated⟩

/-- The album of a text that spells a body. A text has no more digits and containers than
characters, so that these limits never matter. -/
def read? (text : String) : Option Album :=
  (Json.read? ⟨text.length, text.length, false⟩ text).bind ofShown?

/-! ## Albums whose stamps are in minutes -/

/-- Whether both stamps of an album have no offset, or one of a whole number of minutes. -/
structure InMinutes (a : Album) : Prop where
  created : a.created.InMinutes
  updated : a.updated.InMinutes

variable {a : Album}

/-- **A body is read as the album that it was made of.** -/
theorem ofShown?_response (h : a.InMinutes) : ofShown? a.response = some a := by
  have hid : shownText? a.response "id" = some a.id.text := rfl
  have htitle : shownText? a.response "title" = some a.title := rfl
  have hartist : shownText? a.response "artist" = some a.artist := rfl
  have hprice : shownInteger? a.response "price" = some a.price := rfl
  have hcreated : shownText? a.response "created_at" = some a.created.briefText := rfl
  have hupdated : shownText? a.response "updated_at" = some a.updated.briefText := rfl
  unfold ofShown?
  simp only [bind, hid, htitle, hartist, hprice, hcreated, hupdated, Option.bind_some]
  rw [AlbumId.read?_text, Stamp.read?_briefText h.created, Stamp.read?_briefText h.updated]
  rfl

/-! ## Printed bodies -/

theorem exists_members (a : Album) {digits : Nat} (hsome : 0 < digits)
    (h : a.price.natAbs < 10 ^ digits) :
    ∃ ms, a.response = .object ms ∧ ∀ m ∈ ms, Plain digits m.2 := by
  refine ⟨_, rfl, fun m hm => ?_⟩
  simp only [List.mem_cons, List.not_mem_nil, or_false] at hm
  rcases hm with rfl | rfl | rfl | rfl | rfl | rfl
  · exact .text _
  · exact .text _
  · exact .text _
  · exact .integer hsome h
  · exact .text _
  · exact .text _

theorem length_signedDecimal_pos (n : Int) : 0 < (signedDecimal n).length := by
  have hdecimal (m : Nat) : 0 < (decimal m).length := by
    simpa [decimal] using List.length_pos_iff.2 Nat.toDigits_ne_nil
  cases n with
  | ofNat m => exact hdecimal m
  | negSucc m => rw [signedDecimal, String.length_append]; exact Nat.add_pos_right _ (hdecimal _)

/-- A number has no more digits than a text in which it is printed. -/
theorem natAbs_lt_of_length_le {n : Int} {k : Nat} (h : (signedDecimal n).length ≤ k) :
    n.natAbs < 10 ^ k := by
  have hdecimal (m : Nat) (hm : (decimal m).length ≤ k) : m < 10 ^ k := by
    have hlen : (Nat.toDigits 10 m).length ≤ k := by
      simpa [decimal] using hm
    have hpos : 0 < (Nat.toDigits 10 m).length := List.length_pos_iff.2 Nat.toDigits_ne_nil
    exact (Nat.length_toDigits_le_iff (by decide) (by omega)).1 hlen
  cases n with
  | ofNat m => exact hdecimal m h
  | negSucc m =>
    refine hdecimal (m + 1) (Nat.le_trans ?_ h)
    simp [signedDecimal]

theorem length_price_lt (a : Album) (layout : Layout) :
    (signedDecimal a.price).length < (a.response.render layout).length := by
  unfold Value.render
  rw [String.length_ofList, ← String.length_toList]
  simp only [response, Value.chars, memberChars, moreMemberChars, List.length_cons,
    List.length_append]
  omega

/-- **Every printed form of a body is read as the album**, whatever the price is. -/
theorem read?_render (h : a.InMinutes) (layout : Layout) :
    read? (a.response.render layout) = some a := by
  have hlength := length_price_lt a layout
  obtain ⟨ms, hms, hplain⟩ :=
    a.exists_members (length_signedDecimal_pos a.price) (natAbs_lt_of_length_le (Nat.le_refl _))
  unfold read?
  generalize (a.response.render layout).length = k at hlength ⊢
  have hdocument : Document ⟨k, k, false⟩ ((Value.object ms).chars layout) (.object ms) :=
    document_chars layout hlength (Nat.zero_lt_of_lt hlength) hplain
  rw [← hms] at hdocument
  unfold Value.render
  rw [read?_eq_some_iff.2 hdocument, Option.bind_some, ofShown?_response h]

end Album

/-! ## Albums of the storage -/

namespace Store

open Discography.Calendar

theorem Row.inMinutes_toAlbum (r : Row) : r.toAlbum.InMinutes := by
  constructor
  · rintro o ⟨⟩
    rfl
  · rintro o ⟨⟩
    rfl

namespace Session

variable {s : Session}

theorem inMinutes_of_findOne {u : AlbumId} {a : Album}
    (h : (s.perform (.findOne u)).1 = .ok (some a)) : a.InMinutes := by
  simp only [perform] at h
  split at h
  · cases h
  · cases h
  · cases h
    exact Row.inMinutes_toAlbum _

theorem inMinutes_of_findAll {offset limit : Int} {as : List Album}
    (h : (s.perform (.findAll offset limit)).1 = .ok (some as)) : ∀ a ∈ as, a.InMinutes := by
  simp only [perform] at h
  split at h
  · cases h
  · cases h
  · cases h
    intro a ha
    obtain ⟨r, -, rfl⟩ := List.mem_map.1 ha
    exact r.inMinutes_toAlbum

end Session

end Store

/-! ## Nothing is lost -/

/-- **A response mirrors its album.** Of every album with stamps in minutes, the body has the id and
the stamps as texts that are read as they were, the other fields as they are, and in every printed
form it is read as the album. So two such albums with a printed form in common are equal, and every
album that a storage answers is read back from all printed forms of its body. -/
theorem response_mirrors_album :
    (∀ a : Album, a.InMinutes →
      (∃ id created updated : String,
        a.response = .object [("id", .text id), ("title", .text a.title),
          ("artist", .text a.artist), ("price", .integer a.price), ("created_at", .text created),
          ("updated_at", .text updated)] ∧
        AlbumId.read? id = some a.id ∧ Stamp.read? created = some a.created ∧
        Stamp.read? updated = some a.updated) ∧
      ∀ layout, Album.read? (a.response.render layout) = some a) ∧
    (∀ a b : Album, a.InMinutes → b.InMinutes →
      ∀ l m, a.response.render l = b.response.render m → a = b) ∧
    ∀ s : Store.Session,
      (∀ u a, (s.perform (.findOne u)).1 = .ok (some a) →
        ∀ layout, Album.read? (a.response.render layout) = some a) ∧
      ∀ offset limit as, (s.perform (.findAll offset limit)).1 = .ok (some as) →
        ∀ a ∈ as, ∀ layout, Album.read? (a.response.render layout) = some a := by
  refine ⟨?readBack, ?injective, fun s => ⟨?found, ?listed⟩⟩
  case readBack =>
    intro a h
    have hcreated := Stamp.read?_briefText h.created
    have hupdated := Stamp.read?_briefText h.updated
    exact ⟨⟨_, _, _, rfl, AlbumId.read?_text a.id, hcreated, hupdated⟩, Album.read?_render h⟩
  case injective =>
    intro a b ha hb l m h
    have hread := Album.read?_render ha l
    rw [h, Album.read?_render hb m] at hread
    exact (Option.some.inj hread).symm
  case found =>
    intro u a h
    exact Album.read?_render (Store.Session.inMinutes_of_findOne h)
  case listed =>
    intro offset limit as h a ha
    exact Album.read?_render (Store.Session.inMinutes_of_findAll h a ha)

/-- An album with a quote, a line break and a character beyond ASCII, a price below zero, a stamp
in year 1 without an offset and one at a minute less than a day before UTC; and a stored album. -/
theorem response_mirrors_album_unusual :
    let a : Album := ⟨⟨1, by decide⟩, "\"\n\\", "🎷", -12345678901234567890123,
      ⟨⟨1, by decide⟩, none⟩, ⟨⟨63871288200000000, by decide⟩, some ⟨-86340000000, by decide⟩⟩⟩
    let row : Store.Row := ⟨a.id, "Blue", "Joni Mitchell", 5600, a.created.wall, a.updated.wall⟩
    let s : Store.Session := .begin (.table (Store.Table.empty.put row))
    a.InMinutes ∧ (∀ layout, Album.read? (a.response.render layout) = some a) ∧
      (s.perform (.findOne a.id)).1 = .ok (some row.toAlbum) ∧
      (s.perform (.findAll 0 10)).1 = .ok (some [row.toAlbum]) ∧
      ∀ layout, Album.read? (row.toAlbum.response.render layout) = some row.toAlbum := by
  intro a row s
  have h : a.InMinutes := by
    constructor
    · rintro o ⟨⟩
    · rintro o ⟨⟩
      decide
  obtain ⟨hshown, -, hstored⟩ := response_mirrors_album
  obtain ⟨-, hread⟩ := hshown a h
  have hlisted : (s.perform (.findAll 0 10)).1 = .ok (some [row.toAlbum]) := by
    have hwindow : (Store.Table.empty.put row).window 0 10 = [row] := by
      unfold Store.Table.window Store.Table.listed
      exact congrArg (List.take 10) (List.mergeSort_singleton row)
    have hstatement : s.statement (·.selectWindow 0 10) = .ok [row] := congrArg Except.ok hwindow
    simp only [Store.Session.perform, hstatement]
    rfl
  exact ⟨h, hread, rfl, hlisted, (hstored s).2 0 10 _ hlisted _ List.mem_cons_self⟩

end Discography
