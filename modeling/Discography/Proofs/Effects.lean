import Discography.Proofs.Outcomes

/-!
# What a request does to a table

A request that is served over a database with a table puts one row, takes one row out, or leaves the
table as it is. Which of these it does, and what it answers, is said here once, and every invariant
of runs is derived from it.

* `Effect` — the four things that serving a request can come to.
* `hasEffect` — serving any request comes to one of them.
-/

set_option autoImplicit false

namespace Discography.Api

open Discography.Store Discography.Http

/-- The catalog in service: a database is open, and drafts are checked as usual. -/
def catalog : Context := ⟨true, Draft.problems⟩

theorem hasDatabase_catalog : catalog.hasDatabase = true := rfl

/-! ## Effects -/

/-- A response that tells of no change: nothing added, changed or removed. -/
def Quiet (r : Request) (response : Response) : Prop :=
  (r.method = "POST" → response.status ≠ 201) ∧
    (r.method = "PUT" ∨ r.method = "DELETE" → response.status ≠ 200)

/-- What serving a request over a table can come to: the table and the world afterwards. -/
inductive Effect (s : Supply) (ctx : Context) (r : Request) (t : Table) (w : World Database)
    (o : Outcome Database Response) : Table → Prop
  /-- A new row is put. -/
  | created {d : Draft} {row : Row} (method : r.method = "POST")
      (draft : Draft.parse r.body = .ok d) (valid : (ctx.validator d).isEmpty = true)
      (row_eq : Row.ofAlbum? (Album.create (s.ids w.draws) d (s.clock w.readings)) = some row)
      (free : t.find? (s.ids w.draws) = none)
      (value : o.value =
        .json 201 (Album.create (s.ids w.draws) d (s.clock w.readings)).response)
      (readings : o.world.readings = w.readings + 1) (draws : o.world.draws = w.draws + 1) :
      Effect s ctx r t w o (t.put row)
  /-- The row of the album that the request names is replaced. -/
  | changed {id : AlbumId} {d : Draft} {old row : Row} (method : r.method = "PUT")
      (named : named? r = some id) (draft : Draft.parse r.body = .ok d)
      (valid : (ctx.validator d).isEmpty = true) (found : t.find? id = some old)
      (row_eq : Row.ofAlbum? (old.toAlbum.withDraft d (s.clock w.readings)) = some row)
      (value : o.value = .json 200 (old.toAlbum.withDraft d (s.clock w.readings)).response)
      (readings : o.world.readings = w.readings + 1) (draws : o.world.draws = w.draws) :
      Effect s ctx r t w o (t.put row)
  /-- The row of the album that the request names is taken out. -/
  | removed {id : AlbumId} {old : Row} (method : r.method = "DELETE")
      (named : named? r = some id) (found : t.find? id = some old)
      (value : o.value = .json 200 old.toAlbum.response)
      (readings : o.world.readings = w.readings) (draws : o.world.draws = w.draws) :
      Effect s ctx r t w o (t.erase id)
  /-- The table stays as it is. -/
  | kept (quiet : Quiet r o.value) (readings : w.readings ≤ o.world.readings)
      (draws : w.draws ≤ o.world.draws) : Effect s ctx r t w o t

/-! ## Serving a request has an effect -/

theorem quiet_of_error {r : Request} {f : Failure} (h : 400 ≤ statusOf f) :
    Quiet r (answered r (.error f)) := by
  unfold Quiet
  rw [status_answered]
  constructor <;> intro _ <;> omega

section Serve

variable {s : Supply} {ctx : Context} {r : Request} {t : Table} {w : World Database}

/-- What serving a request over a table comes to, with the table afterwards. -/
def HasEffect (s : Supply) (ctx : Context) (r : Request) (t : Table) (w : World Database) : Prop :=
  ∃ t', (serve .database s ctx r w).world.store = .table t' ∧
    Effect s ctx r t w (serve .database s ctx r w) t'

/-- A request that fails leaves the table as it was. -/
theorem HasEffect.of_error {e : Endpoint} {f : Failure} {n k : Nat}
    (h : find (routes r) r.method r.path = .endpoint e)
    (hx : Comes s (planOf ctx e) w (.error f) ⟨.table t, n, k⟩) (hf : 400 ≤ statusOf f)
    (hn : w.readings ≤ n) (hk : w.draws ≤ k) : HasEffect s ctx r t w := by
  obtain ⟨hvalue, hworld⟩ := serve_of_comes h hx
  exact ⟨t, by rw [hworld], .kept (hvalue ▸ quiet_of_error hf) (by rwa [hworld]) (by rwa [hworld])⟩

theorem hasEffect_createAlbum (hd : ctx.hasDatabase = true) {n k : Nat} {body : ByteArray}
    (h : find (routes r) r.method r.path = .endpoint (.createAlbum body)) :
    HasEffect s ctx r t ⟨.table t, n, k⟩ := by
  obtain ⟨hm, rfl⟩ := reaches_of_find h
  cases hr : Draft.parse r.body with
  | error f =>
    exact .of_error h (comes_create_malformed hr) (by simp [parse_draft_error hr]) (Nat.le_refl _)
      (Nat.le_refl _)
  | ok d =>
    by_cases hv : (ctx.validator d).isEmpty = true
    · cases hrow : Row.ofAlbum? (Album.create (s.ids k) d (s.clock n)) with
      | none =>
        have hc := Database.perform_insert_dateOutOfRange (t := t) hrow
        exact .of_error h (comes_create_failed hd hr hv hc (by decide)) (by simp)
          (Nat.le_add_right _ _) (Nat.le_add_right _ _)
      | some row =>
        have hid : row.id = s.ids k := Row.id_of_ofAlbum? hrow
        have hfits : fitsInt64 row.price = true := by
          rw [Row.price_of_ofAlbum? hrow]
          exact fitsInt64_of_parse hr
        cases hfree : t.find? (s.ids k) with
        | some old =>
          have hc := Database.perform_insert_duplicate hrow hfits (hid ▸ hfree)
          exact .of_error h (comes_create_failed hd hr hv hc (by decide)) (by simp)
            (Nat.le_add_right _ _) (Nat.le_add_right _ _)
        | none =>
          have hc := Database.perform_insert_new hrow hfits (hid ▸ hfree)
          obtain ⟨hvalue, hworld⟩ := serve_of_comes h (comes_create hd hr hv hc)
          exact ⟨t.put row, by rw [hworld],
            .created hm hr hv hrow hfree hvalue (by rw [hworld]) (by rw [hworld])⟩
    · exact .of_error h (comes_create_invalid hd hr hv) (by simp) (Nat.le_refl _) (Nat.le_refl _)

theorem hasEffect_updateAlbum (hd : ctx.hasDatabase = true) {n k : Nat} {raw : String}
    {body : ByteArray} (h : find (routes r) r.method r.path = .endpoint (.updateAlbum raw body)) :
    HasEffect s ctx r t ⟨.table t, n, k⟩ := by
  obtain ⟨hm, hs, rfl⟩ := reaches_of_find h
  cases hi : AlbumId.parse (some raw) with
  | error f =>
    exact .of_error h (comes_update_malformedId hi) (by simp [parse_id_error hi]) (Nat.le_refl _)
      (Nat.le_refl _)
  | ok id =>
    have hnamed : named? r = some id := named?_of_parse hs hi
    cases hr : Draft.parse r.body with
    | error f =>
      exact .of_error h (comes_update_malformed hi hr) (by simp [parse_draft_error hr])
        (Nat.le_refl _) (Nat.le_refl _)
    | ok d =>
      by_cases hv : (ctx.validator d).isEmpty = true
      · cases hfound : t.find? id with
        | none =>
          have hc := Database.perform_findOne_none hfound
          exact .of_error h (comes_update_missing hd hi hr hv hc) (by simp) (Nat.le_refl _)
            (Nat.le_refl _)
        | some old =>
          have hc := Database.perform_findOne_some hfound
          cases hrow : Row.ofAlbum? (old.toAlbum.withDraft d (s.clock n)) with
          | none =>
            have hu := Database.perform_update_dateOutOfRange (t := t) hrow
            exact .of_error h (comes_update_failed hd hi hr hv hc hu (by decide)) (by simp)
              (Nat.le_add_right _ _) (Nat.le_refl _)
          | some row =>
            have hid : row.id = id := Table.id_of_changed hfound hrow
            have hfits : fitsInt64 row.price = true := by
              rw [Row.price_of_ofAlbum? hrow]
              exact fitsInt64_of_parse hr
            have hu := Database.perform_update_some hrow hfits (hid ▸ hfound)
            obtain ⟨hvalue, hworld⟩ := serve_of_comes h (comes_update hd hi hr hv hc hu)
            exact ⟨t.put row, by rw [hworld], .changed hm hnamed hr hv hfound hrow hvalue
              (by rw [hworld]) (by rw [hworld])⟩
      · exact .of_error h (comes_update_invalid hd hi hr hv) (by simp) (Nat.le_refl _)
          (Nat.le_refl _)

theorem hasEffect_deleteAlbum (hd : ctx.hasDatabase = true) {n k : Nat} {raw : String}
    (h : find (routes r) r.method r.path = .endpoint (.deleteAlbum raw)) :
    HasEffect s ctx r t ⟨.table t, n, k⟩ := by
  obtain ⟨hm, hs⟩ := reaches_of_find h
  cases hi : AlbumId.parse (some raw) with
  | error f =>
    exact .of_error h (comes_delete_malformed hi) (by simp [parse_id_error hi]) (Nat.le_refl _)
      (Nat.le_refl _)
  | ok id =>
    cases hfound : t.find? id with
    | none =>
      have hc := Database.perform_findOne_none hfound
      exact .of_error h (comes_delete_missing hd hi hc) (by simp) (Nat.le_refl _) (Nat.le_refl _)
    | some old =>
      have hc := Database.perform_findOne_some hfound
      have he := Database.perform_remove_some hfound
      obtain ⟨hvalue, hworld⟩ := serve_of_comes h (comes_delete hd hi hc he)
      exact ⟨t.erase id, by rw [hworld], .removed hm (named?_of_parse hs hi) hfound hvalue
        (by rw [hworld]) (by rw [hworld])⟩

/-- A request that only reads leaves the table as it was. -/
theorem HasEffect.of_get {e : Endpoint} {x : Except Failure Response}
    (h : find (routes r) r.method r.path = .endpoint e) (hm : r.method = "GET")
    (hw : w.store = .table t) (hx : Comes s (planOf ctx e) w x w) : HasEffect s ctx r t w := by
  obtain ⟨-, hworld⟩ := serve_of_comes h hx
  exact ⟨t, by rw [hworld, hw], .kept ⟨by simp [hm], by simp [hm]⟩
    (Nat.le_of_eq (by rw [hworld])) (Nat.le_of_eq (by rw [hworld]))⟩

theorem hasEffect_listAlbums (hd : ctx.hasDatabase = true) {n k : Nat} {query : String}
    (h : find (routes r) r.method r.path = .endpoint (.listAlbums query)) :
    HasEffect s ctx r t ⟨.table t, n, k⟩ := by
  obtain ⟨hm, -⟩ := reaches_of_find h
  cases hq : Page.parse (lastParameter? query "page_size") (lastParameter? query "page_number") with
  | error f => exact .of_get h hm rfl (comes_list_refused hd hq)
  | ok page =>
    obtain ⟨answer, hc⟩ : ∃ answer, (Database.table t).perform (.findAll page.offset page.limit) =
        (answer, .table t) := ⟨_, Database.perform_findAll t page.offset page.limit⟩
    cases answer with
    | ok found =>
      cases found with
      | none => exact .of_get h hm rfl (comes_list_nothing hd hq hc)
      | some albums => exact .of_get h hm rfl (comes_list hd hq hc)
    | error f =>
      by_cases hf : f = .notFound
      · subst hf
        exact .of_get h hm rfl (comes_list_empty hd hq hc)
      · exact .of_get h hm rfl (comes_list_failed hd hq hc hf)

theorem hasEffect_getAlbum (hd : ctx.hasDatabase = true) {n k : Nat} {raw : String}
    (h : find (routes r) r.method r.path = .endpoint (.getAlbum raw)) :
    HasEffect s ctx r t ⟨.table t, n, k⟩ := by
  obtain ⟨hm, -⟩ := reaches_of_find h
  cases hi : AlbumId.parse (some raw) with
  | error f => exact .of_get h hm rfl (comes_get_malformed hi)
  | ok id =>
    cases hfound : t.find? id with
    | none =>
      have hc := Database.perform_findOne_none hfound
      exact .of_get h hm rfl (comes_get_missing hd hi hc)
    | some old =>
      have hc := Database.perform_findOne_some hfound
      exact .of_get h hm rfl (comes_get hd hi hc)

/-- A request that reaches no endpoint is not answered with success. -/
theorem status_unserved {r : Request} (h : ∀ e, find (routes r) r.method r.path ≠ .endpoint e) :
    (unserved r (find (routes r) r.method r.path)).status ≠ 200 ∧
      (unserved r (find (routes r) r.method r.path)).status ≠ 201 := by
  cases hf : find (routes r) r.method r.path with
  | endpoint e => exact absurd hf (h e)
  | notAllowed methods => simp [unserved, Response.detail, Response.json]
  | redirect path => simp [unserved]
  | unknown => simp [unserved, Response.detail, Response.json]

/-- A request that reaches no endpoint leaves the table as it was. -/
theorem HasEffect.of_not_find (h : ∀ e, find (routes r) r.method r.path ≠ .endpoint e)
    (hw : w.store = .table t) : HasEffect s ctx r t w := by
  obtain ⟨hvalue, hworld⟩ := serve_of_not_find .database s ctx h w
  refine ⟨t, by rw [hworld, hw], .kept ?_ (Nat.le_of_eq (by rw [hworld]))
    (Nat.le_of_eq (by rw [hworld]))⟩
  rw [hvalue]
  exact ⟨fun _ => (status_unserved h).2, fun _ => (status_unserved h).1⟩

/-- **Serving any request over a table has an effect**: a row is put, a row is taken out, or the
table stays as it is. -/
theorem hasEffect (hd : ctx.hasDatabase = true) (hw : w.store = .table t) :
    HasEffect s ctx r t w := by
  obtain ⟨d, n, k⟩ := w
  cases hw
  cases h : find (routes r) r.method r.path with
  | notAllowed methods => exact .of_not_find (fun e he => by rw [h] at he; cases he) rfl
  | redirect path => exact .of_not_find (fun e he => by rw [h] at he; cases he) rfl
  | unknown => exact .of_not_find (fun e he => by rw [h] at he; cases he) rfl
  | endpoint e =>
    cases e with
    | health => exact .of_get h (reaches_of_find h) rfl .done
    | readiness => exact .of_get h (reaches_of_find h) rfl (comes_readiness hd)
    | createAlbum body => exact hasEffect_createAlbum hd h
    | listAlbums query => exact hasEffect_listAlbums hd h
    | getAlbum raw => exact hasEffect_getAlbum hd h
    | updateAlbum raw body => exact hasEffect_updateAlbum hd h
    | deleteAlbum raw => exact hasEffect_deleteAlbum hd h

end Serve

end Discography.Api
