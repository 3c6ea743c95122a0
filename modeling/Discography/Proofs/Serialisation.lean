import Discography.Proofs.CallShapes
import Discography.Proofs.Runs

/-!
# Requests served side by side can be served one after the other

However requests take turns, there is an order in which they can be served one after the other that
leaves the same table and gives every request the same answer, save that a removal may show the album
as it was earlier. A request that looks for an album takes effect there if it does not find the album,
and with its second storage call otherwise; any other takes effect with its only call.

* `Pending` — a request that has not taken effect yet, and what it knows.
* `Serial` — the invariant of turns: what has taken effect so far, as if one after the other.
* `requests_serialise` — the order for a whole schedule.
-/

set_option autoImplicit false

namespace Discography.Api

open Discography.Calendar Discography.Store Discography.Http

/-- An answer that is the same up to the body of a removal. -/
def SameAnswer (r : Request) (x y : Response) : Prop :=
  y.status = x.status ∧ (r.method ≠ "DELETE" → y = x)

theorem SameAnswer.refl (r : Request) (x : Response) : SameAnswer r x x := ⟨rfl, fun _ => rfl⟩

theorem SameAnswer.of_delete {r : Request} (hm : r.method = "DELETE") (status : Int)
    (a b : Json.Value) : SameAnswer r (.json status a) (.json status b) :=
  ⟨rfl, fun h => absurd hm h⟩

/-! ## Albums keep the moment of their creation -/

/-- Every row was there before and is as old as it was, or has the id that a task draws. -/
def Inherits (ctx : Context) (k : Task) (t t' : Table) : Prop :=
  ∀ u row', t'.find? u = some row' →
    (∃ row, t.find? u = some row ∧ row'.created = row.created) ∨ (k.Draws ctx ∧ k.id = u)

namespace Inherits

variable {ctx : Context} {k : Task} {t : Table}

theorem refl (ctx : Context) (k : Task) (t : Table) : Inherits ctx k t t :=
  fun _ row' h => .inl ⟨row', h, rfl⟩

theorem put_drawn {row : Row} (hd : k.Draws ctx) (hid : row.id = k.id) :
    Inherits ctx k t (t.put row) := by
  intro u row' h
  rw [Table.find?_put] at h
  split at h
  · rename_i hu
    exact .inr ⟨hd, hid.symm.trans hu⟩
  · exact .inl ⟨row', h, rfl⟩

theorem put_found {row old : Row} (hfound : t.find? row.id = some old)
    (hc : row.created = old.created) : Inherits ctx k t (t.put row) := by
  intro u row' h
  rw [Table.find?_put] at h
  split at h
  · rename_i hu
    cases h
    exact .inl ⟨old, hu ▸ hfound, hc⟩
  · exact .inl ⟨row', h, rfl⟩

theorem erase (id : AlbumId) : Inherits ctx k t (t.erase id) := by
  intro u row' h
  rw [Table.find?_erase] at h
  split at h
  · cases h
  · exact .inl ⟨row', h, rfl⟩

end Inherits

variable {n : Nat}

/-- An id that a row had at the beginning, or that a task drew which has taken effect. -/
def Known (ctx : Context) (tasks : Fin n → Task) (t₀ : Table) (order : List (Fin n)) (u : AlbumId) :
    Prop :=
  (∃ row, t₀.find? u = some row) ∨ ∃ i ∈ order, (tasks i).Draws ctx ∧ (tasks i).id = u

theorem Known.concat {ctx : Context} {tasks : Fin n → Task} {t₀ : Table} {order : List (Fin n)}
    {u : AlbumId} (h : Known ctx tasks t₀ order u) (i : Fin n) :
    Known ctx tasks t₀ (order ++ [i]) u := by
  rcases h with h | ⟨j, hj, h⟩
  · exact .inl h
  · exact .inr ⟨j, List.mem_append_left _ hj, h⟩

/-- The id that a task draws is not known before the task has taken effect. -/
theorem Known.not_drawn {ctx : Context} {tasks : Fin n → Task} {t₀ : Table} {order : List (Fin n)}
    (hn : NeverRepeats ctx tasks t₀) {i : Fin n} (hi : i ∉ order) (hd : (tasks i).Draws ctx) :
    ¬ Known ctx tasks t₀ order (tasks i).id := by
  rintro (⟨row, hrow⟩ | ⟨j, hj, hdj, hid⟩)
  · rw [hn.fresh i hd] at hrow
    cases hrow
  · rw [hn.distinct j i hdj hd hid] at hj
    exact hi hj

/-! ## Requests that have not taken effect -/

/-- What is left of a request that has not taken effect: all of it, or the second of two storage
calls. A change that is about to be made is made to an album as old as the one that was found. -/
inductive Pending (ctx : Context) (k : Task) (known : AlbumId → Prop) (t : Table)
    (p : Plan Response) : Prop
  | waiting (left : p.advance k = (respond ctx k.request).advance k)
  | changing {draft : Draft} {next : Except Failure (Option Album) → Plan Response}
      {after : Album → Except Failure Unit → Plan Response} {missing broken : Response} {row : Row}
      {now : WallTime} (h : Changes k row.id draft next after missing broken)
      (first : (respond ctx k.request).advance k = .call (.findOne row.id) next)
      (inCalendar : k.now.toUtc? = some now) (isKnown : known row.id)
      (asOld : ∀ other, t.find? row.id = some other → other.created = row.created)
      (left : p.advance k =
        .call (.update (row.toAlbum.withDraft draft k.now)) (after row.toAlbum))
  | removing {u : AlbumId} {next : Except Failure (Option Album) → Plan Response}
      {after : Album → Except Failure Unit → Plan Response} {missing : Response} {a : Album}
      (h : Removes k u next after missing)
      (first : (respond ctx k.request).advance k = .call (.findOne u) next)
      (left : p.advance k = .call (.remove u) (after a))

/-- A request stays pending while others take effect, as long as known albums stay as old. -/
theorem Pending.of_inherits {ctx : Context} {k k' : Task} {known known' : AlbumId → Prop}
    {t t' : Table} {p : Plan Response} (h : Pending ctx k known t p) (ht : Inherits ctx k' t t')
    (hknown : ∀ u, known u → known' u) (hnew : ∀ u, known u → k'.Draws ctx → k'.id ≠ u) :
    Pending ctx k known' t' p := by
  cases h with
  | waiting left => exact .waiting left
  | removing h first left => exact .removing h first left
  | changing h first inCalendar isKnown asOld left =>
    refine .changing h first inCalendar (hknown _ isKnown) (fun other hother => ?_) left
    rcases ht _ other hother with ⟨old, hold, hc⟩ | ⟨hd, hid⟩
    · rw [hc, asOld old hold]
    · exact absurd hid (hnew _ isKnown hd)

theorem Pending.of_advance_eq {ctx : Context} {k : Task} {known : AlbumId → Prop} {t : Table}
    {p q : Plan Response} (h : Pending ctx k known t p) (hq : q.advance k = p.advance k) :
    Pending ctx k known t q := by
  cases h with
  | waiting left => exact .waiting (hq.trans left)
  | changing h first inCalendar isKnown asOld left =>
    exact .changing h first inCalendar isKnown asOld (hq.trans left)
  | removing h first left => exact .removing h first (hq.trans left)

/-! ## The invariant of turns -/

/-- The requests of an order have taken effect: one after the other they lead to the table that is
there, and each has an answer or is about to give it. All others are pending. -/
structure Serial (ctx : Context) (tasks : Fin n → Task) (t₀ : Table) (c : Stage n)
    (order : List (Fin n)) (t : Table) : Prop where
  store : c.store = .table t
  nodup : order.Nodup
  replay : (inTurn ctx tasks order (.table t₀)).2 = .table t
  known : ∀ u row, t.find? u = some row → Known ctx tasks t₀ order u
  settled : ∀ i ∈ order, ∃ x y, (i, y) ∈ (inTurn ctx tasks order (.table t₀)).1 ∧
    Settled (tasks i) x (c.plans i) ∧ SameAnswer (tasks i).request x y
  pending : ∀ i, i ∉ order →
    Pending ctx (tasks i) (Known ctx tasks t₀ order) t (c.plans i)

namespace Serial

variable {ctx : Context} {tasks : Fin n → Task} {t₀ t t' : Table} {c c' : Stage n}
  {order : List (Fin n)} {i : Fin n}

theorem start (ctx : Context) (tasks : Fin n → Task) (t₀ : Table) :
    Serial ctx tasks t₀ (.start ctx tasks (.table t₀)) [] t₀ where
  store := rfl
  nodup := List.nodup_nil
  replay := rfl
  known _ row h := .inl ⟨row, h⟩
  settled _ h := absurd h List.not_mem_nil
  pending _ _ := .waiting rfl

/-- A step after which the database and what a plan advances to are as before. -/
theorem of_quiet (h : Serial ctx tasks t₀ c order t) (hstore : c'.store = .table t)
    (hothers : ∀ j, j ≠ i → c'.plans j = c.plans j)
    (hsettled : i ∈ order → ∀ x, Settled (tasks i) x (c.plans i) → Settled (tasks i) x (c'.plans i))
    (hpending : i ∉ order → Pending ctx (tasks i) (Known ctx tasks t₀ order) t (c'.plans i)) :
    Serial ctx tasks t₀ c' order t where
  store := hstore
  nodup := h.nodup
  replay := h.replay
  known := h.known
  settled j hj := by
    obtain ⟨x, y, hy, hx, hsame⟩ := h.settled j hj
    refine ⟨x, y, hy, ?_, hsame⟩
    by_cases hji : j = i
    · subst hji
      exact hsettled hj x hx
    · rw [hothers j hji]
      exact hx
  pending j hj := by
    by_cases hji : j = i
    · subst hji
      exact hpending hj
    · rw [hothers j hji]
      exact h.pending j hj

/-- A pending request takes effect: alone it would lead to the same table and the same answer. -/
theorem of_effect (h : Serial ctx tasks t₀ c order t) (hn : NeverRepeats ctx tasks t₀)
    (hi : i ∉ order) {x y : Response} (hstore : c'.store = .table t')
    (hothers : ∀ j, j ≠ i → c'.plans j = c.plans j) (hsettled : Settled (tasks i) x (c'.plans i))
    (hends : Ends (tasks i) (respond ctx (tasks i).request) (.table t) y (.table t'))
    (hsame : SameAnswer (tasks i).request x y) (hinherits : Inherits ctx (tasks i) t t') :
    Serial ctx tasks t₀ c' (order ++ [i]) t' := by
  have hturn : inTurn ctx tasks (order ++ [i]) (.table t₀) =
      ((inTurn ctx tasks order (.table t₀)).1 ++ [(i, y)], .table t') := by
    rw [inTurn_concat]
    simp only [h.replay]
    rw [show (serve .database (tasks i).supply ctx (tasks i).request { store := .table t }).value = y
      from (hends 0 0).1, show (serve .database (tasks i).supply ctx (tasks i).request
        { store := .table t }).world.store = .table t' from (hends 0 0).2]
  refine ⟨hstore, ?_, by rw [hturn], fun u row' hrow' => ?_, fun j hj => ?_, fun j hj => ?_⟩
  · refine List.nodup_append.2 ⟨h.nodup, by simp, ?_⟩
    intro a ha b hb
    rw [List.mem_singleton.1 hb]
    rintro rfl
    exact hi ha
  · rcases hinherits u row' hrow' with ⟨row, hrow, -⟩ | ⟨hd, hid⟩
    · exact (h.known u row hrow).concat i
    · exact .inr ⟨i, by simp, hd, hid⟩
  · rw [hturn]
    rcases List.mem_append.1 hj with hbefore | hlast
    · obtain ⟨x', y', hy', hx', hsame'⟩ := h.settled j hbefore
      have hji : j ≠ i := by
        rintro rfl
        exact hi hbefore
      exact ⟨x', y', List.mem_append_left _ hy', by rw [hothers j hji]; exact hx', hsame'⟩
    · obtain rfl : j = i := List.mem_singleton.1 hlast
      exact ⟨x, y, by simp, hsettled, hsame⟩
  · obtain ⟨hj, hji⟩ : j ∉ order ∧ j ≠ i := by simpa using hj
    rw [hothers j hji]
    refine (h.pending j hj).of_inherits hinherits (fun u hu => hu.concat i) fun u hu hd hid => ?_
    rw [← hid] at hu
    exact hu.not_drawn hn hi hd

/-- The storage call of a pending request makes it take effect. -/
theorem of_call (h : Serial ctx tasks t₀ c order t) (hn : NeverRepeats ctx tasks t₀) (hi : i ∉ order)
    {call : Call} {next : Except Failure call.Answer → Plan Response}
    {answer : Except Failure call.Answer} {x y : Response} (hp : c.plans i = .call call next)
    (hc : (Database.table t).perform call = (answer, .table t'))
    (hsettled : Settled (tasks i) x (next answer))
    (hends : Ends (tasks i) (respond ctx (tasks i).request) (.table t) y (.table t'))
    (hsame : SameAnswer (tasks i).request x y) (hinherits : Inherits ctx (tasks i) t t') :
    Serial ctx tasks t₀ (c.step tasks i) (order ++ [i]) t' := by
  rw [← h.store] at hc
  obtain ⟨hplan, hstore⟩ := Stage.step_call tasks hp hc
  refine h.of_effect hn hi hstore (fun j hj => Stage.step_plans_of_ne tasks c hj) ?_ hends hsame
    hinherits
  rw [hplan]
  exact hsettled

/-- The storage call of a pending request leaves the table and what is pending as they are. -/
theorem of_look (h : Serial ctx tasks t₀ c order t) (hi : i ∉ order)
    {call : Call} {next : Except Failure call.Answer → Plan Response}
    {answer : Except Failure call.Answer} (hp : c.plans i = .call call next)
    (hc : (Database.table t).perform call = (answer, .table t))
    (hpending : Pending ctx (tasks i) (Known ctx tasks t₀ order) t (next answer)) :
    Serial ctx tasks t₀ (c.step tasks i) order t := by
  rw [← h.store] at hc
  obtain ⟨hplan, hstore⟩ := Stage.step_call tasks hp hc
  refine h.of_quiet (hstore.trans h.store) (fun j hj => Stage.step_plans_of_ne tasks c hj)
    (fun hj => absurd hj hi) fun _ => ?_
  rw [hplan]
  exact hpending

end Serial

/-! ## What a request would come to alone -/

section Alone

variable {ctx : Context} {k : Task} {t t' t'' : Table} {x : Response}

/-- A request whose first storage call is known ends as what is left after it does. -/
theorem ends_of_first {call : Call} {next : Except Failure call.Answer → Plan Response}
    {answer : Except Failure call.Answer} {d' : Database}
    (first : (respond ctx k.request).advance k = .call call next)
    (hc : (Database.table t).perform call = (answer, .table t'))
    (hends : Ends k (next answer) (.table t') x d') :
    Ends k (respond ctx k.request) (.table t) x d' := by
  refine .of_advance ?_
  rw [first]
  refine .call ?_
  rw [hc]
  exact hends

/-- Adding an album under the id that was drawn leaves a table of rows that were there before, and
perhaps the new one. -/
theorem perform_insert_inherits (hd : k.Draws ctx) (draft : Draft) (t : Table) :
    ∃ answer t', (Database.table t).perform (.insert (Album.create k.id draft k.now)) =
      (answer, .table t') ∧ Inherits ctx k t t' := by
  rw [Database.perform_insert]
  split
  · exact ⟨_, t, rfl, .refl ctx k t⟩
  · rename_i row hrow
    split
    · exact ⟨_, t, rfl, .refl ctx k t⟩
    · split
      · exact ⟨_, t, rfl, .refl ctx k t⟩
      · exact ⟨_, t.put row, rfl, .put_drawn hd (Row.id_of_ofAlbum? hrow)⟩

end Alone

namespace Serial

variable {ctx : Context} {tasks : Fin n → Task} {t₀ t t' : Table} {c : Stage n}
  {order : List (Fin n)} {i : Fin n}

/-- The only storage call that a pending request makes before it is settled. -/
theorem of_first (h : Serial ctx tasks t₀ c order t) (hn : NeverRepeats ctx tasks t₀)
    (hi : i ∉ order) {call : Call} {next : Except Failure call.Answer → Plan Response}
    {answer : Except Failure call.Answer} {x : Response} (hp : c.plans i = .call call next)
    (first : (respond ctx (tasks i).request).advance (tasks i) = .call call next)
    (hc : (Database.table t).perform call = (answer, .table t'))
    (hsettled : Settled (tasks i) x (next answer)) (hinherits : Inherits ctx (tasks i) t t') :
    ∃ order' t', Serial ctx tasks t₀ (c.step tasks i) order' t' :=
  ⟨order ++ [i], t', h.of_call hn hi hp hc hsettled (ends_of_first first hc (hsettled.ends t'))
    (.refl _ x) hinherits⟩

/-- The first storage call of a request. -/
theorem step_waiting (h : Serial ctx tasks t₀ c order t) (hn : NeverRepeats ctx tasks t₀)
    (hi : i ∉ order) {call : Call} {next : Except Failure call.Answer → Plan Response}
    (hp : c.plans i = .call call next)
    (first : (respond ctx (tasks i).request).advance (tasks i) = .call call next) :
    ∃ order' t', Serial ctx tasks t₀ (c.step tasks i) order' t' := by
  have hshape := shape_respond ctx (tasks i)
  rw [first] at hshape
  cases hshape with
  | reads same ends =>
    obtain ⟨answer, hc⟩ : ∃ answer, (Database.table t).perform call = (answer, .table t) :=
      ⟨_, Prod.ext rfl (same t)⟩
    obtain ⟨x, hx⟩ := ends answer
    exact h.of_first hn hi hp first hc (.done hx) (.refl ctx _ t)
  | @adds draft _ drawn ends =>
    obtain ⟨answer, t', hc, hinherits⟩ := perform_insert_inherits drawn draft t
    obtain ⟨x, hx⟩ := ends answer
    exact h.of_first hn hi hp first hc (.done hx) hinherits
  | @changes u draft _ after missing broken hplan =>
    cases hfound : t.find? u with
    | none =>
      have hc := Database.perform_findOne_none hfound
      exact h.of_first hn hi hp first hc (.done hplan.absent) (.refl ctx _ t)
    | some row =>
      have hc := Database.perform_findOne_some hfound
      obtain rfl : row.id = u := Table.id_of_find? hfound
      cases hnow : (tasks i).now.toUtc? with
      | none =>
        -- The update fails whatever is stored, so the request has its answer already.
        have hfails (t : Table) : (Database.table t).perform
            (.update (row.toAlbum.withDraft draft (tasks i).now)) =
              (.error .dateOutOfRange, .table t) :=
          Database.perform_update_dateOutOfRange (by simp [Row.ofAlbum?, Album.withDraft, hnow])
        have hsettled : Settled (tasks i) broken (_ : Plan Response) :=
          .call (hplan.found row.toAlbum) hfails (.done (hplan.failed row.toAlbum))
        exact h.of_first hn hi hp first hc hsettled (.refl ctx _ t)
      | some now =>
        refine ⟨_, t, h.of_look hi hp hc (.changing hplan first hnow (h.known _ row hfound) ?_
          (hplan.found row.toAlbum))⟩
        intro other hother
        rw [Option.some.inj (hother.symm.trans hfound)]
  | @removes u _ after missing hplan =>
    cases hfound : t.find? u with
    | none =>
      have hc := Database.perform_findOne_none hfound
      exact h.of_first hn hi hp first hc (.done hplan.absent) (.refl ctx _ t)
    | some row =>
      exact ⟨_, t, h.of_look hi hp (Database.perform_findOne_some hfound)
        (.removing hplan first (hplan.found row.toAlbum))⟩

/-- The change of an album that has been looked for. -/
theorem step_changing (h : Serial ctx tasks t₀ c order t) (hn : NeverRepeats ctx tasks t₀)
    (hi : i ∉ order) {draft : Draft} {next : Except Failure (Option Album) → Plan Response}
    {after : Album → Except Failure Unit → Plan Response} {missing broken : Response} {row : Row}
    {now : WallTime} (hplan : Changes (tasks i) row.id draft next after missing broken)
    (first : (respond ctx (tasks i).request).advance (tasks i) = .call (.findOne row.id) next)
    (hnow : (tasks i).now.toUtc? = some now)
    (asOld : ∀ other, t.find? row.id = some other → other.created = row.created)
    (hp : c.plans i =
      .call (.update (row.toAlbum.withDraft draft (tasks i).now)) (after row.toAlbum)) :
    ∃ order' t', Serial ctx tasks t₀ (c.step tasks i) order' t' := by
  let new : Row := ⟨row.id, draft.title, draft.artist, draft.price, row.created, now⟩
  have hnew : Row.ofAlbum? (row.toAlbum.withDraft draft (tasks i).now) = some new :=
    Row.ofAlbum?_eq_some_iff.2 ⟨rfl, rfl, rfl, rfl, Stamp.toUtc?_utc _, hnow⟩
  have hfits : fitsInt64 new.price = true := hplan.fits
  cases hfound : t.find? row.id with
  | none =>
    have hc := Database.perform_update_none hnew hfits hfound
    exact ⟨_, t, h.of_call hn hi hp hc (.done (hplan.gone row.toAlbum)) (ends_of_first first
      (Database.perform_findOne_none hfound) ((Settled.done hplan.absent).ends t)) (.refl _ _)
      (.refl ctx _ t)⟩
  | some other =>
    have hc := Database.perform_update_some hnew hfits hfound
    -- The album that is there now is changed to the same as the one that was found.
    have hsame : other.toAlbum.withDraft draft (tasks i).now =
        row.toAlbum.withDraft draft (tasks i).now := by
      simp only [Album.withDraft, Row.toAlbum, Table.id_of_find? hfound, asOld other hfound]
    have hends : Ends (tasks i) (next (.ok (some other.toAlbum))) (.table t)
        (.json 200 (row.toAlbum.withDraft draft (tasks i).now).response) (.table (t.put new)) := by
      refine .of_advance ?_
      rw [hplan.found, hsame]
      refine .call ?_
      rw [hc]
      have hlast := hplan.changed other.toAlbum
      rw [hsame] at hlast
      exact (Settled.done hlast).ends _
    exact ⟨_, t.put new, h.of_call hn hi hp hc (.done (hplan.changed row.toAlbum))
      (ends_of_first first (Database.perform_findOne_some hfound) hends) (.refl _ _)
      (.put_found hfound (asOld other hfound).symm)⟩

/-- The removal of an album that has been looked for. -/
theorem step_removing (h : Serial ctx tasks t₀ c order t) (hn : NeverRepeats ctx tasks t₀)
    (hi : i ∉ order) {u : AlbumId} {next : Except Failure (Option Album) → Plan Response}
    {after : Album → Except Failure Unit → Plan Response} {missing : Response} {a : Album}
    (hplan : Removes (tasks i) u next after missing)
    (first : (respond ctx (tasks i).request).advance (tasks i) = .call (.findOne u) next)
    (hp : c.plans i = .call (.remove u) (after a)) :
    ∃ order' t', Serial ctx tasks t₀ (c.step tasks i) order' t' := by
  cases hfound : t.find? u with
  | none =>
    have hc := Database.perform_remove_none hfound
    exact ⟨_, t, h.of_call hn hi hp hc (.done (hplan.gone a)) (ends_of_first first
      (Database.perform_findOne_none hfound) ((Settled.done hplan.absent).ends t)) (.refl _ _)
      (.refl ctx _ t)⟩
  | some row =>
    have hc := Database.perform_remove_some hfound
    have hends : Ends (tasks i) (next (.ok (some row.toAlbum))) (.table t)
        (.json 200 row.toAlbum.response) (.table (t.erase u)) := by
      refine .of_advance ?_
      rw [hplan.found]
      refine .call ?_
      rw [hc]
      exact (Settled.done (hplan.removed row.toAlbum)).ends _
    exact ⟨_, t.erase u, h.of_call hn hi hp hc (.done (hplan.removed a))
      (ends_of_first first (Database.perform_findOne_some hfound) hends)
      (.of_delete hplan.method 200 _ _) (.erase u)⟩

/-- Whichever request makes a step, the requests that have taken effect stay in an order. -/
theorem step (h : Serial ctx tasks t₀ c order t) (hn : NeverRepeats ctx tasks t₀) (i : Fin n) :
    ∃ order' t', Serial ctx tasks t₀ (c.step tasks i) order' t' := by
  have hstore : (c.step tasks i).store = ((c.plans i).step (tasks i) (.table t)).2 := by
    rw [← h.store]
    rfl
  have hplan : (c.step tasks i).plans i = ((c.plans i).step (tasks i) (.table t)).1 := by
    rw [Stage.step_plans_self, h.store]
  by_cases hi : i ∈ order
  · obtain ⟨x, y, -, hx, -⟩ := h.settled i hi
    refine ⟨order, t, h.of_quiet (hstore.trans (hx.step t).2)
      (fun j hj => Stage.step_plans_of_ne tasks c hj) (fun _ x hx => ?_) fun hn => absurd hi hn⟩
    rw [hplan]
    exact (hx.step t).1
  · rcases (c.plans i).step_cases (tasks i) t with ⟨call, next, hp⟩ | ⟨hquiet, hadvance⟩
    · have hleft : (c.plans i).advance (tasks i) = c.plans i := by
        rw [hp]
        rfl
      cases h.pending i hi with
      | waiting left => exact h.step_waiting hn hi hp (left.symm.trans (hleft.trans hp))
      | changing hplan first inCalendar _ asOld left =>
        exact h.step_changing hn hi hplan first inCalendar asOld (hleft.symm.trans left)
      | removing hplan first left => exact h.step_removing hn hi hplan first (hleft.symm.trans left)
    · refine ⟨order, t, h.of_quiet (hstore.trans hquiet)
        (fun j hj => Stage.step_plans_of_ne tasks c hj) (fun hj => absurd hj hi) fun _ => ?_⟩
      refine (h.pending i hi).of_advance_eq ?_
      rw [hplan]
      exact hadvance

theorem interleave (h : Serial ctx tasks t₀ c order t) (hn : NeverRepeats ctx tasks t₀)
    (schedule : List (Fin n)) :
    ∃ order' t', Serial ctx tasks t₀ (Api.interleave tasks schedule c) order' t' := by
  induction schedule generalizing c order t with
  | nil => exact ⟨order, t, h⟩
  | cons i rest ih =>
    obtain ⟨order', t', h'⟩ := h.step hn i
    exact ih h'

/-- Once every request has its answer, those that never called the storage can be put last. -/
theorem complete (h : Serial ctx tasks t₀ c order t) (hn : NeverRepeats ctx tasks t₀)
    (hdone : ∀ i, ∃ x, c.plans i = .done x) (rest : List (Fin n)) :
    ∃ order', Serial ctx tasks t₀ c order' t ∧ ∀ i ∈ rest, i ∈ order' := by
  induction rest with
  | nil => exact ⟨order, h, fun i hi => absurd hi List.not_mem_nil⟩
  | cons i rest ih =>
    obtain ⟨order', h', hrest⟩ := ih
    by_cases hi : i ∈ order'
    · refine ⟨order', h', fun j hj => ?_⟩
      rcases List.mem_cons.1 hj with rfl | hj
      · exact hi
      · exact hrest j hj
    · obtain ⟨x, hx⟩ := hdone i
      have hadvance : (c.plans i).advance (tasks i) = .done x := by
        rw [hx]
        rfl
      have hfirst : (respond ctx (tasks i).request).advance (tasks i) = .done x := by
        cases h'.pending i hi with
        | waiting left => exact left.symm.trans hadvance
        | changing _ _ _ _ _ left => cases left.symm.trans hadvance
        | removing _ _ left => cases left.symm.trans hadvance
      refine ⟨order' ++ [i], h'.of_effect hn hi h'.store (fun j _ => rfl) (.done hadvance)
        ((Settled.done hfirst).ends t) (.refl _ x) (.refl ctx _ t), fun j hj => ?_⟩
      rcases List.mem_cons.1 hj with rfl | hj
      · simp
      · exact List.mem_append_left _ (hrest j hj)

end Serial

/-- **Requests served side by side can be served one after the other.** Whatever table they start
from and however they take turns, if no id is drawn twice, then there is an order in which all of them,
each with its own reading of the clock and its own id, lead to the same table, and each is answered
with the same status and, unless it removes an album, with the same body. -/
theorem requests_serialise (ctx : Context) (tasks : Fin n → Task) (t : Table)
    (hn : NeverRepeats ctx tasks t) (schedule : List (Fin n))
    (hdone : ∀ i, ((interleave tasks schedule (.start ctx tasks (.table t))).plans i).value?.isSome) :
    ∃ order : List (Fin n), order.Perm (List.finRange n) ∧
      (inTurn ctx tasks order (.table t)).2 =
        (interleave tasks schedule (.start ctx tasks (.table t))).store ∧
      ∀ i response,
        ((interleave tasks schedule (.start ctx tasks (.table t))).plans i).value? = some response →
          ∃ alone, (i, alone) ∈ (inTurn ctx tasks order (.table t)).1 ∧
            alone.status = response.status ∧
            ((tasks i).request.method ≠ "DELETE" → alone = response) := by
  have hvalue {p : Plan Response} {x : Response} (h : p.value? = some x) : p = .done x := by
    cases p with
    | done y => exact congrArg Plan.done (Option.some.inj h)
    | _ => cases h
  obtain ⟨order, t', h⟩ := (Serial.start ctx tasks t).interleave hn schedule
  obtain ⟨order, h, hall⟩ := h.complete hn
    (fun i => (Option.isSome_iff_exists.1 (hdone i)).imp fun _ => hvalue) (List.finRange n)
  refine ⟨order, ?_, h.replay.trans h.store.symm, fun i response hresponse => ?_⟩
  · refine (List.perm_ext_iff_of_nodup h.nodup (List.nodup_finRange n)).2 fun i => ?_
    exact ⟨fun _ => List.mem_finRange i, hall i⟩
  · obtain ⟨x, alone, halone, hsettled, hsame⟩ := h.settled i (hall i (List.mem_finRange i))
    rw [hvalue hresponse] at hsettled
    obtain rfl : response = x := hsettled.eq_of_done
    exact ⟨alone, halone, hsame⟩

/-- A table of one album. -/
def oneAlbum : Table := Table.empty.put ⟨default, "Hejira", "Joni", 2, default, default⟩

/-- A change and a removal of one album, and an addition of another one. -/
def changeRemovalAddition : Fin 3 → Task
  | 0 => ⟨⟨"PUT", "/albums/" ++ (default : AlbumId).text, "", adding.body⟩, .utc default, default⟩
  | 1 => ⟨⟨"DELETE", "/albums/" ++ (default : AlbumId).text, "", .empty⟩, .utc default, default⟩
  | 2 => ⟨adding, .utc default, .ofRandom 1⟩

theorem change_beside_removal_serialises :
    let tasks := changeRemovalAddition
    let schedule := [0, 2, 1, 2, 1, 0, 0, 2, 0]
    NeverRepeats catalog tasks oneAlbum ∧ (tasks 2).Draws catalog ∧
      ∃ order : List (Fin 3), order.Perm (List.finRange 3) ∧
        (inTurn catalog tasks order (.table oneAlbum)).2 =
          (interleave tasks schedule (.start catalog tasks (.table oneAlbum))).store := by
  intro tasks schedule
  have hdraws : ∀ i, (respond catalog (tasks i).request).draws (tasks i) = decide (i = 2) := by
    decide +kernel
  have hlast {i : Fin 3} (hi : (tasks i).Draws catalog) : i = 2 := by
    rwa [Task.Draws, hdraws, decide_eq_true_eq] at hi
  have hfresh : oneAlbum.find? (tasks 2).id = none := by decide +kernel
  have hn : NeverRepeats catalog tasks oneAlbum :=
    ⟨fun i hi => hlast hi ▸ hfresh, fun i j hi hj _ => (hlast hi).trans (hlast hj).symm⟩
  obtain ⟨order, hperm, htable, -⟩ := requests_serialise catalog tasks oneAlbum hn schedule
    (by decide +kernel)
  exact ⟨hn, hdraws 2, order, hperm, htable⟩

end Discography.Api
