import Discography.Proofs.Runs
import Discography.Proofs.IdSpellings

/-!
# Reading what was written

A run of requests leaves a history: each request with its response and the ids that were drawn for
it. Over an empty catalog whose clock reads UTC, the history alone tells what reading an album
answers: the body of the last request that wrote the album, unless it was removed since.

* `find?_after_wrote`, `find?_after_removed`, `find?_after_other` — what one exchange does to the row
  of an album.
* `mirrors_after` — after a run, the rows are what the history says.
* `reads_follow_history` — what reading an album answers after any run.
-/

set_option autoImplicit false

namespace Discography.Api

open Discography.Calendar Discography.Store Discography.Http

/-! ## Writing and removing -/

namespace Exchange

/-- An album was added under an id that was drawn, or changed by its name. -/
def Wrote (u : AlbumId) (e : Exchange) : Prop :=
  (e.request.method = "POST" ∧ e.response.status = 201 ∧ u ∈ e.drawn) ∨
    (e.request.method = "PUT" ∧ e.response.status = 200 ∧ named? e.request = some u)

/-- An album was removed by its name. -/
def Removed (u : AlbumId) (e : Exchange) : Prop :=
  e.request.method = "DELETE" ∧ e.response.status = 200 ∧ named? e.request = some u

end Exchange

/-! ## What one exchange does to the row of an album -/

section Rows

variable {s : Supply} {ctx : Context} {r : Request} {t t' : Table} {w : World Database}
  {u : AlbumId}

theorem eq_utc_of_isUtc {x : Stamp} (h : x.isUtc = true) : x = .utc x.wall := by
  obtain ⟨wall, offset⟩ := x
  have hoffset : offset = some .utc := by simpa [Stamp.isUtc] using h
  rw [hoffset]
  rfl

/-- An album whose stamps are UTC is what its row gives back. -/
theorem toAlbum_of_ofAlbum? {a : Album} {row : Row} (h : Row.ofAlbum? a = some row)
    (hc : a.created.isUtc = true) (hu : a.updated.isUtc = true) : row.toAlbum = a := by
  have hutc (x : Stamp) (y : WallTime) (hx : x.isUtc = true) (hy : x.toUtc? = some y) :
      Stamp.utc y = x := by
    have hwall := Stamp.toUtc?_utc x.wall
    rw [← eq_utc_of_isUtc hx, hy] at hwall
    rw [Option.some.inj hwall, ← eq_utc_of_isUtc hx]
  obtain ⟨hid, htitle, hartist, hprice, hcreated, hupdated⟩ := Row.ofAlbum?_eq_some_iff.1 h
  unfold Row.toAlbum
  rw [hutc _ _ hc hcreated, hutc _ _ hu hupdated, hid, htitle, hartist, hprice]

theorem drawn_of_created (h : (serve .database s ctx r w).world.draws = w.draws + 1) :
    (exchange .database s ctx r w).drawn = [s.ids w.draws] := by
  simp [exchange, h]

/-- After an exchange that wrote an album its row is what the response showed, and an album that
was there before was created when it was. -/
theorem find?_after_wrote (hs : ∀ n, (s.clock n).isUtc = true)
    (he : Effect s ctx r t w (serve .database s ctx r w) t')
    (hu : (exchange .database s ctx r w).Wrote u) :
    ∃ row status, t'.find? u = some row ∧
      (exchange .database s ctx r w).response = .json status row.toAlbum.response ∧
      ∀ old, t.find? u = some old → row.created = old.created := by
  cases he with
  | @created d row method draft valid row_eq free value readings draws =>
    obtain ⟨-, -, hu⟩ | ⟨hm, -, -⟩ := hu
    · obtain rfl : u = s.ids w.draws := by simpa [drawn_of_created draws] using hu
      have hid : row.id = s.ids w.draws := Row.id_of_ofAlbum? row_eq
      refine ⟨row, 201, ?_, ?_, fun old hold => ?_⟩
      · rw [Table.find?_put, if_pos hid]
      · rw [toAlbum_of_ofAlbum? row_eq (hs _) (hs _)]
        exact value
      · rw [free] at hold
        cases hold
    · exact absurd (method.symm.trans hm) (by decide)
  | @changed id d old row method named draft valid found row_eq value readings draws =>
    obtain ⟨hm, -, -⟩ | ⟨-, -, hn⟩ := hu
    · exact absurd (method.symm.trans hm) (by decide)
    · obtain rfl : id = u := Option.some.inj (named.symm.trans hn)
      have hid : row.id = id := Table.id_of_changed found row_eq
      have hrow := toAlbum_of_ofAlbum? row_eq rfl (hs _)
      refine ⟨row, 200, ?_, ?_, fun old' hold => ?_⟩
      · rw [Table.find?_put, if_pos hid]
      · rw [hrow]
        exact value
      · obtain rfl : old = old' := Option.some.inj (found.symm.trans hold)
        exact congrArg (fun a => a.created.wall) hrow
  | removed method named found value readings draws =>
    obtain ⟨hm, -, -⟩ | ⟨hm, -, -⟩ := hu
    · exact absurd (method.symm.trans hm) (by decide)
    · exact absurd (method.symm.trans hm) (by decide)
  | kept quiet readings draws =>
    obtain ⟨hm, hst, -⟩ | ⟨hm, hst, -⟩ := hu
    · exact absurd hst (quiet.1 hm)
    · exact absurd hst (quiet.2 (.inl hm))

/-- After an exchange that removed an album its row is gone. -/
theorem find?_after_removed (he : Effect s ctx r t w (serve .database s ctx r w) t')
    (hu : (exchange .database s ctx r w).Removed u) : t'.find? u = none := by
  obtain ⟨hm, hst, hn⟩ := hu
  cases he with
  | created method => exact absurd (method.symm.trans hm) (by decide)
  | changed method => exact absurd (method.symm.trans hm) (by decide)
  | @removed id old method named found value readings draws =>
    obtain rfl : id = u := Option.some.inj (named.symm.trans hn)
    rw [Table.find?_erase, if_pos rfl]
  | kept quiet => exact absurd hst (quiet.2 (.inr hm))

/-- An exchange that neither wrote nor removed an album leaves its row as it was. -/
theorem find?_after_other (he : Effect s ctx r t w (serve .database s ctx r w) t')
    (hw : ¬ (exchange .database s ctx r w).Wrote u)
    (hr : ¬ (exchange .database s ctx r w).Removed u) : t'.find? u = t.find? u := by
  cases he with
  | @created d row method draft valid row_eq free value readings draws =>
    have hid : row.id = s.ids w.draws := Row.id_of_ofAlbum? row_eq
    have hne : s.ids w.draws ≠ u := by
      rintro rfl
      refine hw (.inl ⟨method, ?_, ?_⟩)
      · exact congrArg Response.status value
      · simp [drawn_of_created draws]
    rw [Table.find?_put, hid, if_neg hne]
  | @changed id d old row method named draft valid found row_eq value readings draws =>
    have hid : row.id = id := Table.id_of_changed found row_eq
    have hne : id ≠ u := by
      rintro rfl
      exact hw (.inr ⟨method, congrArg Response.status value, named⟩)
    rw [Table.find?_put, hid, if_neg hne]
  | @removed id old method named found value readings draws =>
    have hne : id ≠ u := by
      rintro rfl
      exact hr ⟨method, congrArg Response.status value, named⟩
    rw [Table.find?_erase, if_neg hne]
  | kept quiet readings draws => rfl

end Rows

/-! ## What a history says of an album -/

/-- An exchange is the last one of a history that wrote an album, which has not been removed since. -/
def Standing (u : AlbumId) (e : Exchange) (h : List Exchange) : Prop :=
  ∃ pre post, h = pre ++ e :: post ∧ e.Wrote u ∧ ∀ x ∈ post, ¬ x.Wrote u ∧ ¬ x.Removed u

theorem not_standing_nil (u : AlbumId) (e : Exchange) : ¬ Standing u e [] := by
  rintro ⟨pre, post, h, -⟩
  simp at h

/-- What stands after one more exchange: that exchange, or what stood before if it passed by. -/
theorem standing_concat_iff {u : AlbumId} {e x : Exchange} {h : List Exchange} :
    Standing u e (h ++ [x]) ↔
      (e = x ∧ x.Wrote u) ∨ (Standing u e h ∧ ¬ x.Wrote u ∧ ¬ x.Removed u) := by
  constructor
  · rintro ⟨pre, post, heq, hw, hpost⟩
    rcases post.eq_nil_or_concat with rfl | ⟨post, y, rfl⟩
    · obtain ⟨-, he⟩ := List.append_inj' heq rfl
      obtain rfl : x = e := by simpa using he
      exact .inl ⟨rfl, hw⟩
    · rw [List.concat_eq_append, ← List.cons_append, ← List.append_assoc] at heq
      obtain ⟨rfl, hx⟩ := List.append_inj' heq rfl
      obtain rfl : x = y := by simpa using hx
      exact .inr ⟨⟨pre, post, rfl, hw, fun z hz => hpost z (by simp [hz])⟩, hpost x (by simp)⟩
  · rintro (⟨rfl, hw⟩ | ⟨⟨pre, post, rfl, hw, hpost⟩, hx⟩)
    · exact ⟨h, [], rfl, hw, by simp⟩
    · refine ⟨pre, post ++ [x], by simp, hw, fun z hz => ?_⟩
      rcases List.mem_append.1 hz with hz | hz
      · exact hpost z hz
      · obtain rfl : z = x := by simpa using hz
        exact hx

/-- A table is what a history says: an album is there, with the body that its standing exchange
answered, exactly if an exchange stands for it. -/
structure Mirrors (t : Table) (h : List Exchange) : Prop where
  row_of_standing : ∀ u e, Standing u e h →
    ∃ row status, t.find? u = some row ∧ e.response = .json status row.toAlbum.response
  standing_of_row : ∀ u row, t.find? u = some row → ∃ e, Standing u e h

theorem mirrors_empty : Mirrors .empty [] :=
  ⟨fun u e he => absurd he (not_standing_nil u e), fun u row hrow => by simp at hrow⟩

section Run

variable {s : Supply} {ctx : Context}

/-- Whatever a request does, the table stays what the history says. -/
theorem Mirrors.step (hs : ∀ n, (s.clock n).isUtc = true) {r : Request} {t t' : Table}
    {w : World Database} {h : List Exchange} (hm : Mirrors t h)
    (he : Effect s ctx r t w (serve .database s ctx r w) t') :
    Mirrors t' (h ++ [exchange .database s ctx r w]) := by
  refine ⟨fun u e hst => ?_, fun u row hrow => ?_⟩
  · rcases standing_concat_iff.1 hst with ⟨rfl, hw⟩ | ⟨hst, hw, hr⟩
    · obtain ⟨row, status, hrow, hresponse, -⟩ := find?_after_wrote hs he hw
      exact ⟨row, status, hrow, hresponse⟩
    · rw [find?_after_other he hw hr]
      exact hm.row_of_standing u e hst
  · by_cases hw : (exchange .database s ctx r w).Wrote u
    · exact ⟨_, standing_concat_iff.2 (.inl ⟨rfl, hw⟩)⟩
    · have hr : ¬ (exchange .database s ctx r w).Removed u := fun hr => by
        rw [find?_after_removed he hr] at hrow
        cases hrow
      rw [find?_after_other he hw hr] at hrow
      obtain ⟨e, hst⟩ := hm.standing_of_row u row hrow
      exact ⟨e, standing_concat_iff.2 (.inr ⟨hst, hw, hr⟩)⟩

/-- After a run over an empty catalog the table is what the history says. -/
theorem mirrors_after (hd : ctx.hasDatabase = true) (hs : ∀ n, (s.clock n).isUtc = true)
    (rs : List Request) :
    ∃ t, (worldAfter .database s ctx rs emptyCatalog).store = .table t ∧
      Mirrors t (exchanges .database s ctx rs emptyCatalog) :=
  run_invariant hd (P := fun t _ h => Mirrors t h) (fun _ _ _ _ _ hm he => hm.step hs he) rs .empty
    emptyCatalog [] rfl mirrors_empty

/-- As long as an album is not removed, the moment of its creation stays. -/
theorem created_kept (hd : ctx.hasDatabase = true) (hs : ∀ n, (s.clock n).isUtc = true)
    {rs : List Request} {t : Table} {w : World Database} {u : AlbumId} {row : Row}
    (hw : w.store = .table t) (hrow : t.find? u = some row)
    (hr : ∀ x ∈ exchanges .database s ctx rs w, ¬ x.Removed u) :
    ∃ t' row', (worldAfter .database s ctx rs w).store = .table t' ∧ t'.find? u = some row' ∧
      row'.created = row.created := by
  obtain ⟨t', hw', h'⟩ := run_invariant (s := s) hd
    (P := fun t _ h => (∀ x ∈ h, ¬ x.Removed u) →
      ∃ row', t.find? u = some row' ∧ row'.created = row.created)
    (fun r t t' w h hP he hx => by
      obtain ⟨old, hold, hc⟩ := hP fun x hxh => hx x (List.mem_append_left _ hxh)
      have hr := hx (exchange .database s ctx r w) (by simp)
      by_cases hwrote : (exchange .database s ctx r w).Wrote u
      · obtain ⟨row', -, hrow', -, hkept⟩ := find?_after_wrote hs he hwrote
        exact ⟨row', hrow', (hkept old hold).trans hc⟩
      · exact ⟨old, by rw [find?_after_other he hwrote hr, hold], hc⟩)
    rs t w [] hw fun _ => ⟨row, hrow, rfl⟩
  obtain ⟨row', hrow', hc⟩ := h' (by simpa using hr)
  exact ⟨t', row', hw', hrow', hc⟩

end Run

/-! ## Reading an album -/

section Reading

variable {s : Supply} {ctx : Context} {q : Request} {t : Table} {w : World Database} {u : AlbumId}

theorem serve_get (hd : ctx.hasDatabase = true) (hw : w.store = .table t) (hm : q.method = "GET")
    (hn : named? q = some u) :
    (serve .database s ctx q w).value =
      match t.find? u with
      | some row => .json 200 row.toAlbum.response
      | none => .message 404 "album not found" := by
  obtain ⟨raw, hseg, hread⟩ := Option.bind_eq_some_iff.1 hn
  have h := find_getAlbum hm hseg
  have hi := parse_id_ok.2 hread
  obtain ⟨d, n, k⟩ := w
  cases hw
  cases hfound : t.find? u with
  | none =>
    have hc := Database.perform_findOne_none hfound
    exact (serve_of_comes h (comes_get_missing hd hi hc)).1
  | some row =>
    have hc := Database.perform_findOne_some hfound
    exact (serve_of_comes h (comes_get hd hi hc)).1

/-- The path with the canonical text of an id names that id. -/
theorem named?_text (h : q.path = "/albums/" ++ u.text) : named? q = some u := by
  have hseg : segment? q = some u.text := capture?_below_eq_some_iff.2
    ⟨h, u.text_ne_empty, u.not_mem_text (by decide) (by decide)⟩
  rw [named?, hseg, Option.bind_some, u.read?_text]

/-- The member of the JSON body of a response. -/
def member? (response : Response) (name : String) : Option Json.Value :=
  response.body.bind fun v => v.get? name

theorem member?_id (status : Int) (a : Album) :
    member? (.json status a.response) "id" = some (.text a.id.text) := by
  simp [member?, Response.json, Album.response, Json.Value.get?, Json.Value.members?, Json.last?]

theorem member?_createdAt (status : Int) (a : Album) :
    member? (.json status a.response) "created_at" = some (.text a.created.briefText) := by
  simp [member?, Response.json, Album.response, Json.Value.get?, Json.Value.members?, Json.last?]

end Reading

/-! ## What history tells -/

section Told

variable {s : Supply} {rs : List Request}

/-- An album for which an exchange stands is shown with the body of that exchange. -/
theorem serve_get_of_standing (hs : ∀ n, (s.clock n).isUtc = true) {u : AlbumId} {q : Request}
    (hm : q.method = "GET") (hn : named? q = some u) {e : Exchange}
    (he : Standing u e (exchanges .database s catalog rs emptyCatalog)) :
    ∃ body, e.response.body = some body ∧
      (serve .database s catalog q (worldAfter .database s catalog rs emptyCatalog)).value =
        .json 200 body := by
  obtain ⟨t, hw, hmirrors⟩ := mirrors_after hasDatabase_catalog hs rs
  obtain ⟨row, status, hrow, hresponse⟩ := hmirrors.row_of_standing u e he
  refine ⟨row.toAlbum.response, by rw [hresponse]; rfl, ?_⟩
  rw [serve_get rfl hw hm hn, hrow]

/-- An album for which no exchange stands is not found. -/
theorem serve_get_of_not_standing (hs : ∀ n, (s.clock n).isUtc = true) {u : AlbumId} {q : Request}
    (hm : q.method = "GET") (hn : named? q = some u)
    (he : ∀ e, ¬ Standing u e (exchanges .database s catalog rs emptyCatalog)) :
    (serve .database s catalog q (worldAfter .database s catalog rs emptyCatalog)).value =
      .message 404 "album not found" := by
  obtain ⟨t, hw, hmirrors⟩ := mirrors_after hasDatabase_catalog hs rs
  rw [serve_get rfl hw hm hn]
  cases hfound : t.find? u with
  | none => rfl
  | some row =>
    obtain ⟨e, hstanding⟩ := hmirrors.standing_of_row u row hfound
    exact absurd hstanding (he e)

/-- A request that is answered with another status than success changes nothing. -/
theorem store_of_refused {ctx : Context} (hd : ctx.hasDatabase = true) {r : Request} {t : Table}
    {w : World Database} (hw : w.store = .table t)
    (h200 : (serve .database s ctx r w).value.status ≠ 200)
    (h201 : (serve .database s ctx r w).value.status ≠ 201) :
    (serve .database s ctx r w).world.store = w.store := by
  obtain ⟨t', hw', he⟩ := hasEffect (r := r) (s := s) hd hw
  cases he with
  | created method draft valid row_eq free value => exact absurd (by rw [value]; rfl) h201
  | changed method named draft valid found row_eq value => exact absurd (by rw [value]; rfl) h200
  | removed method named found value => exact absurd (by rw [value]; rfl) h200
  | kept => rw [hw', hw]

/-- Of two exchanges that wrote an album which was not removed in between, the later one shows the id
and the moment of creation that the earlier one showed. -/
theorem members_kept {ctx : Context} (hd : ctx.hasDatabase = true)
    (hs : ∀ n, (s.clock n).isUtc = true) {w : World Database} {t : Table} (hw : w.store = .table t)
    {u : AlbumId} {p e : Exchange} {mid post : List Exchange}
    (h : exchanges .database s ctx rs w = p :: (mid ++ e :: post)) (hp : p.Wrote u)
    (hmid : ∀ x ∈ mid, ¬ x.Removed u) (he : e.Wrote u) :
    member? p.response "id" = some (.text u.text) ∧
      member? e.response "id" = some (.text u.text) ∧
      member? e.response "created_at" = member? p.response "created_at" := by
  obtain ⟨r, rs, -, rfl, hrest⟩ := exists_of_exchanges_eq_cons h
  obtain ⟨rs₁, rs₂, -, rfl, hlast⟩ := exists_of_exchanges_eq_append hrest
  obtain ⟨r', rs₃, -, rfl, -⟩ := exists_of_exchanges_eq_cons hlast
  obtain ⟨t₁, hw₁, heffect⟩ := hasEffect (r := r) (s := s) hd hw
  obtain ⟨row, status, hrow, hresponse, -⟩ := find?_after_wrote hs heffect hp
  obtain ⟨t₂, row₂, hw₂, hrow₂, hcreated⟩ := created_kept hd hs hw₁ hrow hmid
  obtain ⟨t₃, hw₃, heffect'⟩ := hasEffect (r := r') (s := s) hd hw₂
  obtain ⟨row₃, status', hrow₃, hresponse', hkept⟩ := find?_after_wrote hs heffect' he
  rw [hresponse, hresponse', member?_id, member?_id, member?_createdAt, member?_createdAt]
  refine ⟨?_, ?_, ?_⟩
  · rw [show row.toAlbum.id = u from Table.id_of_find? hrow]
  · rw [show row₃.toAlbum.id = u from Table.id_of_find? hrow₃]
  · rw [show row₃.toAlbum.created = row.toAlbum.created from
      congrArg Stamp.utc ((hkept row₂ hrow₂).trans hcreated)]

end Told

/-- **The history of requests tells what reading an album answers.** Over an empty catalog whose clock
reads UTC, after any run of requests, an album is shown with the body of the last exchange that wrote
it, and is not found if there is none or if it was removed since. A request that is answered with
another status than success changes nothing, and changing an album keeps its id and the moment of its
creation. -/
theorem reads_follow_history (s : Supply) (hs : ∀ n, (s.clock n).isUtc = true)
    (rs : List Request) :
    let h := exchanges .database s catalog rs emptyCatalog
    let w := worldAfter .database s catalog rs emptyCatalog
    (∀ (u : AlbumId) (q : Request), q.method = "GET" → named? q = some u →
      (∀ e, Standing u e h → ∃ body, e.response.body = some body ∧
        (serve .database s catalog q w).value = .json 200 body) ∧
      ((∀ e, ¬ Standing u e h) →
        (serve .database s catalog q w).value = .message 404 "album not found")) ∧
    (∀ (u : AlbumId) (q : Request), q.path = "/albums/" ++ u.text → named? q = some u) ∧
    (∀ r, (serve .database s catalog r w).value.status ≠ 200 →
      (serve .database s catalog r w).value.status ≠ 201 →
        (serve .database s catalog r w).world.store = w.store) ∧
    (∀ (u : AlbumId) (pre mid post : List Exchange) (p e : Exchange),
      h = pre ++ p :: (mid ++ e :: post) → p.Wrote u → (∀ x ∈ mid, ¬ x.Removed u) → e.Wrote u →
        member? p.response "id" = some (.text u.text) ∧
        member? e.response "id" = some (.text u.text) ∧
        member? e.response "created_at" = member? p.response "created_at") := by
  intro h w
  refine ⟨fun u q hm hn => ⟨fun e he => ?_, fun he => ?_⟩, fun u q hq => named?_text hq,
    fun r h200 h201 => ?_, fun u pre mid post p e heq hp hmid he => ?_⟩
  · exact serve_get_of_standing hs hm hn he
  · exact serve_get_of_not_standing hs hm hn he
  · obtain ⟨t, hw, -⟩ := mirrors_after hasDatabase_catalog hs rs
    exact store_of_refused rfl hw h200 h201
  · obtain ⟨rs₁, rs₂, rfl, -, hrest⟩ := exists_of_exchanges_eq_append heq
    obtain ⟨t, hw, -⟩ := mirrors_after hasDatabase_catalog hs rs₁
    exact members_kept rfl hs hw hrest hp hmid he

theorem read_after_adding :
    (∀ n, (standstill.clock n).isUtc = true) ∧
      (serve .database standstill catalog ⟨"GET", "/albums/" ++ (default : AlbumId).text, "", .empty⟩
        (worldAfter .database standstill catalog [adding] emptyCatalog)).value.status = 200 := by
  have hs : ∀ n, (standstill.clock n).isUtc = true := fun _ => rfl
  obtain ⟨hget, hnamed, -, -⟩ := reads_follow_history standstill hs [adding]
  have hwrote : (exchange .database standstill catalog adding emptyCatalog).Wrote default :=
    .inl ⟨rfl, by decide +kernel, by decide +kernel⟩
  have hstanding : Standing default (exchange .database standstill catalog adding emptyCatalog)
      (exchanges .database standstill catalog [adding] emptyCatalog) :=
    ⟨[], [], rfl, hwrote, by simp⟩
  let q : Request := ⟨"GET", "/albums/" ++ (default : AlbumId).text, "", .empty⟩
  obtain ⟨body, -, hvalue⟩ := (hget default q rfl (hnamed default q rfl)).1 _ hstanding
  exact ⟨hs, by rw [hvalue]; rfl⟩

end Discography.Api
