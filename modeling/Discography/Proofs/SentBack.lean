import Discography.Proofs.FlatObject
import Discography.Proofs.History
import Discography.Proofs.RowInvariant

/-!
# A shown album can be sent back

The body with which an album is shown is also a body that the album may be changed with. Sending it
back in any spelling and with its members in any order changes nothing but the moment of the last
change: the three members that are no part of a draft are ignored, and the other three are read as
they were stored.

* `spelled_of_perm` — a spelling of the body of a response spells the draft of its album.
* `serve_put` — a draft that is read and valid is written over the album that the request names.
* `response_sent_back` — after any run, every shown album can be sent back.
-/

set_option autoImplicit false

namespace Discography.Api

open Discography.Calendar Discography.Json Discography.Store Discography.Http

/-! ## The draft of a response -/

/-- The members of the body of an album. -/
def responseMembers (a : Album) : List (String × Value) :=
  [("id", .text a.id.text), ("title", .text a.title), ("artist", .text a.artist),
    ("price", .integer a.price), ("created_at", .text a.created.briefText),
    ("updated_at", .text a.updated.briefText)]

theorem response_eq (a : Album) : a.response = .object (responseMembers a) := rfl

/-- The part of an album that a client writes. -/
def draftOf (a : Album) : Draft := ⟨a.title, a.artist, a.price⟩

section Members

variable {a : Album} {ms : List (String × Value)}

theorem nodup_of_perm (h : ms.Perm (responseMembers a)) : (ms.map Prod.fst).Nodup := by
  have hnames : ((responseMembers a).map Prod.fst).Nodup := by
    show ["id", "title", "artist", "price", "created_at", "updated_at"].Nodup
    decide
  exact (h.map Prod.fst).nodup_iff.2 hnames

theorem plain_of_perm (hprice : -2 ^ 63 ≤ a.price ∧ a.price ≤ 2 ^ 63 - 1)
    (h : ms.Perm (responseMembers a)) : ∀ m ∈ ms, Plain 19 m.2 := by
  intro m hm
  have hm := h.mem_iff.1 hm
  simp only [responseMembers, List.mem_cons, List.not_mem_nil, or_false] at hm
  rcases hm with rfl | rfl | rfl | rfl | rfl | rfl
  · exact .text _
  · exact .text _
  · exact .text _
  · exact .integer (by decide) (by omega)
  · exact .text _
  · exact .text _

theorem makeUp_of_perm (hprice : -2 ^ 63 ≤ a.price ∧ a.price ≤ 2 ^ 63 - 1)
    (h : ms.Perm (responseMembers a)) : Draft.MakeUp ms (draftOf a) := by
  have hcounts {name : String} {v : Value} (hm : (name, v) ∈ responseMembers a) :
      Counts name ms (some v) := counts_of_mem (nodup_of_perm h) (h.mem_iff.2 hm)
  refine ⟨⟨_, hcounts (v := .text a.title) ?_, .text _⟩,
    ⟨_, hcounts (v := .text a.artist) ?_, .text _⟩,
    ⟨_, hcounts (v := .integer a.price) ?_, .integer hprice⟩⟩
  · simp [responseMembers]
  · simp [responseMembers]
  · simp [responseMembers]

/-- A text that spells the members of the body of an album, in any order and within any limits,
spells the draft of that album. -/
theorem spelled_of_perm {limits : Limits} {text : List Char}
    (hprice : -2 ^ 63 ≤ a.price ∧ a.price ≤ 2 ^ 63 - 1) (h : ms.Perm (responseMembers a))
    (hdocument : Document limits text (.object ms)) :
    Draft.Spelled bodyLimits text.utf8Encode (draftOf a) := by
  exact .intro (hdocument.relimit (plain_of_perm hprice h) (by decide) (by decide))
    (makeUp_of_perm hprice h)

end Members

/-! ## Writing over an album -/

section Serve

variable {s : Supply} {ctx : Context} {r : Request} {t : Table} {w : World Database} {u : AlbumId}

/-- Reading an album leaves the world as it was. -/
theorem world_serve_get (hd : ctx.hasDatabase = true) (hw : w.store = .table t)
    (hm : r.method = "GET") (hn : named? r = some u) : (serve .database s ctx r w).world = w := by
  obtain ⟨raw, hseg, hread⟩ := Option.bind_eq_some_iff.1 hn
  have h := find_getAlbum hm hseg
  have hi := parse_id_ok.2 hread
  obtain ⟨d, n, k⟩ := w
  cases hw
  cases hfound : t.find? u with
  | none =>
    have hc := Database.perform_findOne_none hfound
    exact (serve_of_comes h (comes_get_missing hd hi hc)).2
  | some row =>
    have hc := Database.perform_findOne_some hfound
    exact (serve_of_comes h (comes_get hd hi hc)).2

/-- A draft that is read and valid is written over the album that the request names. -/
theorem serve_put {d : Draft} {old row : Row} (hd : ctx.hasDatabase = true)
    (hw : w.store = .table t) (hm : r.method = "PUT") (hn : named? r = some u)
    (hr : Draft.parse r.body = .ok d) (hv : (ctx.validator d).isEmpty = true)
    (hfound : t.find? u = some old)
    (hrow : Row.ofAlbum? (old.toAlbum.withDraft d (s.clock w.readings)) = some row) :
    (serve .database s ctx r w).value =
        .json 200 (old.toAlbum.withDraft d (s.clock w.readings)).response ∧
      (serve .database s ctx r w).world = ⟨.table (t.put row), w.readings + 1, w.draws⟩ := by
  obtain ⟨raw, hseg, hread⟩ := Option.bind_eq_some_iff.1 hn
  have h := find_updateAlbum hm hseg
  have hi := parse_id_ok.2 hread
  obtain ⟨e, n, k⟩ := w
  cases hw
  have hid : row.id = u := Table.id_of_changed hfound hrow
  have hfits : fitsInt64 row.price = true := by
    rw [Row.price_of_ofAlbum? hrow]
    exact fitsInt64_of_parse hr
  have hc := Database.perform_findOne_some hfound
  have hu := Database.perform_update_some hrow hfits (hid ▸ hfound)
  exact serve_of_comes h (comes_update hd hi hr hv hc hu)

end Serve

/-! ## Sending back -/

/-- A row is written back with nothing changed but its last change. -/
theorem ofAlbum?_sentBack (row : Row) {now : Stamp} {wall : WallTime}
    (h : now.toUtc? = some wall) :
    Row.ofAlbum? (row.toAlbum.withDraft (draftOf row.toAlbum) now) =
      some { row with updated := wall } :=
  Row.ofAlbum?_eq_some_iff.2 ⟨rfl, rfl, rfl, rfl, Stamp.toUtc?_utc row.created, h⟩

/-- A sound row is in bounds for a body and for the validator. -/
theorem SoundRow.valid_draft {s : Supply} {n : Nat} {row : Row} (h : SoundRow s n row) :
    (-2 ^ 63 ≤ row.price ∧ row.price ≤ 2 ^ 63 - 1) ∧
      (catalog.validator (draftOf row.toAlbum)).isEmpty = true := by
  obtain ⟨htitle, hartist, hprice⟩ := h.bounds
  refine ⟨by omega, List.isEmpty_iff.2 (Draft.problems_eq_nil_iff.2 ⟨htitle, hartist, ?_⟩)⟩
  exact Int.lt_of_lt_of_le (by decide) hprice.1

/-- **A shown album can be sent back.** After any run of requests over an empty catalog whose clock
reads UTC, reading a stored album shows an object. Whatever text spells the members of that object,
in whatever order and within whatever limits, a request that changes the album with that text as its
body is answered with success. The album keeps all it had but the moment of its last change, which is
the new reading of the clock, and all other albums stay. Every layout prints such a text. -/
theorem response_sent_back (s : Supply) (hs : ∀ n, (s.clock n).isUtc = true) (rs : List Request) :
    let w := worldAfter .database s catalog rs emptyCatalog
    ∃ t, w.store = .table t ∧ ∀ (u : AlbumId) (row : Row), t.find? u = some row →
      ∀ q : Request, q.method = "GET" → named? q = some u →
        ∃ shown, (serve .database s catalog q w).value = .json 200 (.object shown) ∧
          (∀ (layout : Layout) (ms : List (String × Value)), ms.Perm shown →
            Document bodyLimits ((Value.object ms).chars layout) (.object ms)) ∧
          ∀ (limits : Limits) (text : List Char) (ms : List (String × Value)), ms.Perm shown →
            Document limits text (.object ms) →
            ∀ p : Request, p.method = "PUT" → named? p = some u → p.body = text.utf8Encode →
              let w' := (serve .database s catalog q w).world
              let o := serve .database s catalog p w'
              let kept := { row.toAlbum with updated := s.clock w'.readings }
              o.value = .json 200 kept.response ∧
                ∃ t', o.world.store = .table t' ∧ (t'.find? u).map Row.toAlbum = some kept ∧
                  ∀ id, id ≠ u → t'.find? id = t.find? id := by
  intro w
  obtain ⟨t, hw, hsound⟩ := soundRow_after s rs
  refine ⟨t, hw, fun u row hrow q hqm hqn => ?_⟩
  obtain ⟨hprice, hvalid⟩ := (hsound row (List.mem_of_find?_eq_some hrow)).valid_draft
  refine ⟨responseMembers row.toAlbum, ?_, fun layout ms hms => ?_, ?_⟩
  · rw [serve_get rfl hw hqm hqn, hrow, ← response_eq]
  · exact document_chars layout (by decide) (by decide) (plain_of_perm hprice hms)
  · intro limits text ms hms hdocument p hpm hpn hbody
    rw [world_serve_get rfl hw hqm hqn]
    intro w' o kept
    have hparse : Draft.parse p.body = .ok (draftOf row.toAlbum) := by
      rw [hbody]
      exact Draft.parseWithin_eq_ok_iff.2 (spelled_of_perm hprice hms hdocument)
    have hclock : (s.clock w.readings).toUtc? = some (s.clock w.readings).wall := by
      rw [eq_utc_of_isUtc (hs w.readings)]
      exact Stamp.toUtc?_utc _
    have hback := ofAlbum?_sentBack row hclock
    obtain ⟨hvalue, hworld⟩ := serve_put rfl hw hpm hpn hparse hvalid hrow hback
    refine ⟨hvalue, _, by rw [hworld], ?_, fun id hid => ?_⟩
    · rw [Table.find?_put, if_pos (Table.id_of_find? hrow), Option.map_some]
      exact congrArg some (toAlbum_of_ofAlbum? hback rfl (hs w.readings))
    · rw [Table.find?_put, if_neg]
      rw [Table.id_of_find? hrow]
      exact Ne.symm hid

/-- The album that is added first is sent back in ASCII with its members in the opposite order. -/
theorem response_sent_back_reversed :
    (∀ n, (standstill.clock n).isUtc = true) ∧
      let path := "/albums/" ++ (default : AlbumId).text
      let w := worldAfter .database standstill catalog [adding] emptyCatalog
      let o := serve .database standstill catalog ⟨"GET", path, "", .empty⟩ w
      ∃ shown, o.value = .json 200 (.object shown) ∧
        (serve .database standstill catalog
          ⟨"PUT", path, "", ((Value.object shown.reverse).chars .ascii).utf8Encode⟩
          o.world).value.status = 200 := by
  have hs : ∀ n, (standstill.clock n).isUtc = true := fun _ => rfl
  refine ⟨hs, ?_⟩
  intro path w o
  have hrow : w.store =
      .table (Table.empty.put ⟨default, "Blue", "Joni", 1, default, default⟩) := by decide +kernel
  obtain ⟨t, hw, hback⟩ := response_sent_back standstill hs [adding]
  obtain rfl : t = Table.empty.put _ := Database.table.inj (hw.symm.trans hrow)
  have hnamed (r : Request) (hr : r.path = path) : named? r = some default := named?_text hr
  obtain ⟨shown, hvalue, hprinted, hput⟩ := hback default _ (by rw [Table.find?_put]; rfl)
    ⟨"GET", path, "", .empty⟩ rfl (hnamed _ rfl)
  have hdocument := hprinted .ascii shown.reverse (List.reverse_perm shown)
  obtain ⟨hstatus, -⟩ := hput bodyLimits _ _ (List.reverse_perm shown) hdocument
    ⟨"PUT", path, "", _⟩ rfl (hnamed _ rfl) rfl
  exact ⟨shown, hvalue, congrArg Response.status hstatus⟩

end Discography.Api
