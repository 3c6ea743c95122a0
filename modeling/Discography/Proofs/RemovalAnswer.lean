import Mathlib.Data.List.Induction
import Discography.Proofs.Serialisation

/-!
# The album that a removal shows

A removal looks for its album first and then removes it, and other requests may take turns in
between. It shows the album that it found, and it removes whatever row has that id by then. Both are
the same, unless another request has put a row under that id in the meantime.

* `accounted` — where a row comes from that is there after a storage call.
* `plan_of_removal` — the plan of a removal: it is refused, or it looks and then removes.
* `Progress.look`, `Progress.remove` — the two turns in which a removal calls the storage.
* `Progress.concat` — what any turn does to a removal; `progress` — what all of them do.
* `removal_shows_what_it_found` — what a removal that is answered with 200 shows and removes.
-/

set_option autoImplicit false

namespace Discography.Store

/-! ## Where rows come from -/

/-- The row that a call puts if it succeeds. -/
def Call.row? : Call → Option Row
  | .insert a | .update a => Row.ofAlbum? a
  | .findAll _ _ | .findOne _ | .remove _ => none

/-- A call on a table leaves a table, each row of which was there before or has been put by the
call. -/
def Accounted (t : Table) (c : Call) : Prop :=
  ∃ t', ((Database.table t).perform c).2 = .table t' ∧ ∀ u row, t'.find? u = some row →
    t.find? u = some row ∨ c.row? = some row ∧ ∃ x, ((Database.table t).perform c).1 = .ok x

namespace Accounted

variable {t : Table} {c : Call}

theorem of_same {x : Except Failure c.Answer} (h : (Database.table t).perform c = (x, .table t)) :
    Accounted t c := by
  rw [Accounted, h]
  exact ⟨t, rfl, fun u row hrow => .inl hrow⟩

theorem of_put {x : c.Answer} {r : Row} (hrow : c.row? = some r)
    (h : (Database.table t).perform c = (.ok x, .table (t.put r))) : Accounted t c := by
  rw [Accounted, h]
  refine ⟨t.put r, rfl, fun u row hfound => ?_⟩
  rw [Table.find?_put] at hfound
  split at hfound
  · cases hfound
    exact .inr ⟨hrow, x, rfl⟩
  · exact .inl hfound

end Accounted

theorem accounted (t : Table) (c : Call) : Accounted t c := by
  cases c with
  | insert a =>
    cases hrow : Row.ofAlbum? a with
    | none => exact .of_same (Database.perform_insert_dateOutOfRange hrow)
    | some r =>
      cases hfits : fitsInt64 r.price with
      | false => exact .of_same (Database.perform_insert_tooLarge hrow hfits)
      | true =>
        cases hfound : t.find? r.id with
        | some old => exact .of_same (Database.perform_insert_duplicate hrow hfits hfound)
        | none => exact .of_put hrow (Database.perform_insert_new hrow hfits hfound)
  | findAll offset limit => exact .of_same (Database.perform_findAll t offset limit)
  | findOne u => exact .of_same (Database.perform_findOne t u)
  | update a =>
    cases hrow : Row.ofAlbum? a with
    | none => exact .of_same (Database.perform_update_dateOutOfRange hrow)
    | some r =>
      cases hfits : fitsInt64 r.price with
      | false => exact .of_same (Database.perform_update_tooLarge hrow hfits)
      | true =>
        cases hfound : t.find? r.id with
        | some old => exact .of_put hrow (Database.perform_update_some hrow hfits hfound)
        | none => exact .of_same (Database.perform_update_none hrow hfits hfound)
  | remove u =>
    cases hfound : t.find? u with
    | none => exact .of_same (Database.perform_remove_none hfound)
    | some old =>
      rw [Accounted, Database.perform_remove_some hfound]
      refine ⟨t.erase u, rfl, fun v row hrow => ?_⟩
      rw [Table.find?_erase] at hrow
      split at hrow
      · cases hrow
      · exact .inl hrow

end Discography.Store

namespace Discography.Api

open Discography.Store Discography.Http

/-! ## Stages of a schedule -/

/-- The storage call that a plan makes with its next step. -/
def Plan.asks? {α : Type} : Plan α → Option Call
  | .call c _ => some c
  | _ => none

theorem Plan.eq_call_of_asks? {α : Type} {p : Plan α} {c : Call} (h : p.asks? = some c) :
    ∃ next, p = .call c next := by
  cases p with
  | call c' next =>
    cases h
    exact ⟨next, rfl⟩
  | _ => cases h

variable {n : Nat}

/-- A request is about to put a row: it makes a storage call that will succeed and put it. -/
def Stage.Puts (c : Stage n) (j : Fin n) (row : Row) : Prop :=
  ∃ call, (c.plans j).asks? = some call ∧ call.row? = some row ∧
    ∃ x, (c.store.perform call).1 = .ok x

/-- A step over a table leaves a table, each row of which was there before or is put by the step. -/
theorem Stage.step_store (tasks : Fin n → Task) {c : Stage n} {t : Table} (h : c.store = .table t)
    (j : Fin n) : ∃ t', (c.step tasks j).store = .table t' ∧
      ∀ u row, t'.find? u = some row → t.find? u = some row ∨ c.Puts j row := by
  have hstore : (c.step tasks j).store = ((c.plans j).step (tasks j) (.table t)).2 := by
    rw [← h]
    rfl
  rw [hstore]
  rcases (c.plans j).step_cases (tasks j) t with ⟨call, next, hp⟩ | ⟨hquiet, -⟩
  · obtain ⟨t', hafter, hrows⟩ := accounted t call
    rw [hp]
    refine ⟨t', hafter, fun u row hrow => (hrows u row hrow).imp_right fun ⟨hput, hok⟩ => ?_⟩
    exact ⟨call, by rw [hp]; rfl, hput, by rwa [h]⟩
  · exact ⟨t, hquiet, fun u row hrow => .inl hrow⟩

/-- The stage that requests have come to after some turns, from a table. -/
def stageAfter (ctx : Context) (tasks : Fin n → Task) (t : Table) (turns : List (Fin n)) :
    Stage n :=
  interleave tasks turns (.start ctx tasks (.table t))

theorem stageAfter_concat (ctx : Context) (tasks : Fin n → Task) (t : Table)
    (turns : List (Fin n)) (j : Fin n) :
    stageAfter ctx tasks t (turns ++ [j]) = (stageAfter ctx tasks t turns).step tasks j := by
  rw [stageAfter, interleave, List.foldl_append]
  rfl

/-- Turns over a table leave a table. -/
theorem stageAfter_table (ctx : Context) (tasks : Fin n → Task) (t : Table)
    (turns : List (Fin n)) : ∃ t', (stageAfter ctx tasks t turns).store = .table t' := by
  induction turns using List.reverseRecOn with
  | nil => exact ⟨t, rfl⟩
  | append_singleton turns j ih =>
    obtain ⟨t₁, h₁⟩ := ih
    obtain ⟨t₂, h₂, -⟩ := Stage.step_store tasks h₁ j
    exact ⟨t₂, by rw [stageAfter_concat, h₂]⟩

/-- A turn leaves what a plan advances to as it is, unless it is a storage call of this plan. -/
theorem Stage.advance_step (tasks : Fin n → Task) {c : Stage n} {t : Table} (h : c.store = .table t)
    (i j : Fin n) :
    ((c.step tasks j).plans i).advance (tasks i) = (c.plans i).advance (tasks i) ∨
      j = i ∧ ∃ call next, c.plans i = .call call next := by
  by_cases hji : i = j
  · subst hji
    rcases (c.plans i).step_cases (tasks i) t with hcall | ⟨-, hadvance⟩
    · exact .inr ⟨rfl, hcall⟩
    · rw [Stage.step_plans_self, h]
      exact .inl hadvance
  · rw [Stage.step_plans_of_ne tasks c hji]
    exact .inl rfl

/-! ## The plan of a removal -/

/-- A removal that does not look for an album is refused. -/
theorem plan_of_removal (ctx : Context) {k : Task} (hm : k.request.method = "DELETE") :
    (∃ x, (respond ctx k.request).advance k = .done x ∧ x.status ≠ 200) ∨
      ∃ u next after, named? k.request = some u ∧
        (respond ctx k.request).advance k = .call (.findOne u) next ∧
        Removes k u next after (answered k.request (.error .notFound)) := by
  have refused {f : Failure} (h : statusOf f ≠ 200) :
      (answered k.request (.error f)).status ≠ 200 := by
    rwa [status_answered]
  by_cases hfind : ∃ e, find (routes k.request) k.request.method k.request.path = .endpoint e
  · obtain ⟨e, he⟩ := hfind
    have hreaches := reaches_of_find he
    rw [respond_of_find he]
    cases e with
    | deleteAlbum raw =>
      cases hi : AlbumId.parse (some raw) with
      | error f =>
        rw [planOf_deleteAlbum, hi, ifRead_error]
        exact .inl ⟨_, advance_replying_error f, refused (by simp [parse_id_error hi])⟩
      | ok u =>
        by_cases hd : ctx.hasDatabase = true
        · obtain ⟨next, after, hplan, hremoves⟩ := removes_deleteAlbum (k := k) hi hd hm
          exact .inr ⟨u, next, after, named?_of_parse hreaches.2 hi, hplan, hremoves⟩
        · rw [planOf_deleteAlbum, hi, ifRead_ok, Context.ifOpen, if_neg hd]
          exact .inl ⟨_, rfl, refused (by decide)⟩
    | _ => simp [Reaches, hm] at hreaches
  · have hfind := not_exists.1 hfind
    rw [respond_of_not_find ctx hfind]
    exact .inl ⟨_, rfl, (status_unserved hfind).1⟩

/-! ## What becomes of a removal -/

section Removal

variable (ctx : Context) (tasks : Fin n → Task) (t : Table) (i : Fin n) (u : AlbumId)

/-- A removal has looked for its album after some turns and found a row. -/
structure Looks (before : List (Fin n)) (found : Row) : Prop where
  asks : ((stageAfter ctx tasks t before).plans i).asks? = some (.findOne u)
  finds : ∃ t₁, (stageAfter ctx tasks t before).store = .table t₁ ∧ t₁.find? u = some found

/-- A row is the one that a removal found, or another request has put it in the turns since then. -/
def SameOrPut (before between : List (Fin n)) (found row : Row) : Prop :=
  row = found ∨ ∃ earlier j later, between = earlier ++ j :: later ∧ j ≠ i ∧
    (stageAfter ctx tasks t (before ++ i :: earlier)).Puts j row

/-- A removal has erased a row after more turns: the row of its id that was in the table then. -/
structure Erases (before between : List (Fin n)) (erased : Row) : Prop where
  asks : ((stageAfter ctx tasks t (before ++ i :: between)).plans i).asks? = some (.remove u)
  erases : ∃ t₂, (stageAfter ctx tasks t (before ++ i :: between)).store = .table t₂ ∧
    t₂.find? u = some erased ∧
    (stageAfter ctx tasks t (before ++ i :: (between ++ [i]))).store = .table (t₂.erase u)

/-- What has become of a removal after some turns: it is still to look for its album, or has found
one and is still to remove it, or has removed a row and shows the album that it found, or is
refused. -/
inductive Progress (next : Except Failure (Option Album) → Plan Response)
    (after : Album → Except Failure Unit → Plan Response) (turns : List (Fin n)) : Prop
  | waiting (left : ((stageAfter ctx tasks t turns).plans i).advance (tasks i) =
      .call (.findOne u) next)
  | looked {before between : List (Fin n)} {found : Row} (turns_eq : turns = before ++ i :: between)
      (looks : Looks ctx tasks t i u before found)
      (since : ∀ t₂ row, (stageAfter ctx tasks t turns).store = .table t₂ →
        t₂.find? u = some row → SameOrPut ctx tasks t i before between found row)
      (left : ((stageAfter ctx tasks t turns).plans i).advance (tasks i) =
        .call (.remove u) (after found.toAlbum))
  | removed {before between rest : List (Fin n)} {found erased : Row}
      (turns_eq : turns = before ++ i :: (between ++ i :: rest))
      (looks : Looks ctx tasks t i u before found)
      (erases : Erases ctx tasks t i u before between erased)
      (since : SameOrPut ctx tasks t i before between found erased)
      (left : ((stageAfter ctx tasks t turns).plans i).advance (tasks i) =
        .done (.json 200 found.toAlbum.response))
  | refused {x : Response} (status : x.status ≠ 200)
      (left : ((stageAfter ctx tasks t turns).plans i).advance (tasks i) = .done x)

end Removal

variable {ctx : Context} {tasks : Fin n → Task} {t : Table} {i : Fin n} {u : AlbumId}
  {next : Except Failure (Option Album) → Plan Response}
  {after : Album → Except Failure Unit → Plan Response} {missing : Response}

theorem SameOrPut.concat {before between : List (Fin n)} {found row : Row}
    (h : SameOrPut ctx tasks t i before between found row) (j : Fin n) :
    SameOrPut ctx tasks t i before (between ++ [j]) found row := by
  rcases h with h | ⟨earlier, k, later, rfl, hk, hputs⟩
  · exact .inl h
  · exact .inr ⟨earlier, k, later ++ [j], by simp, hk, hputs⟩

/-- A request that is about to remove an album does not put a row. -/
theorem Stage.not_puts_of_advance {c : Stage n} {p : Except Failure Unit → Plan Response}
    (h : (c.plans i).advance (tasks i) = .call (.remove u) p) (row : Row) : ¬ c.Puts i row := by
  rintro ⟨call, hasks, hrow, -⟩
  obtain ⟨q, hq⟩ := Plan.eq_call_of_asks? hasks
  rw [hq] at h
  cases h
  cases hrow

/-- A turn that is not a storage call of a removal, whoever takes it. -/
theorem Progress.concat_of_advance {turns : List (Fin n)} {j : Fin n}
    (h : Progress ctx tasks t i u next after turns)
    (hsame : ((stageAfter ctx tasks t (turns ++ [j])).plans i).advance (tasks i) =
      ((stageAfter ctx tasks t turns).plans i).advance (tasks i)) :
    Progress ctx tasks t i u next after (turns ++ [j]) := by
  cases h with
  | waiting left => exact .waiting (hsame.trans left)
  | @looked before between found turns_eq looks since left =>
    subst turns_eq
    refine .looked (by rw [List.append_assoc, List.cons_append]) looks (fun t₂ row h₂ hrow => ?_)
      (hsame.trans left)
    obtain ⟨t₁, h₁⟩ := stageAfter_table ctx tasks t (before ++ i :: between)
    obtain ⟨t', h', hrows⟩ := Stage.step_store tasks h₁ j
    rw [← stageAfter_concat, h₂] at h'
    cases h'
    rcases hrows u row hrow with hold | hputs
    · exact (since t₁ row h₁ hold).concat j
    · refine .inr ⟨between, j, [], rfl, ?_, hputs⟩
      rintro rfl
      exact Stage.not_puts_of_advance left row hputs
  | @removed before between rest found erased turns_eq looks erases since left =>
    refine .removed (?_ : _ = before ++ i :: (between ++ i :: (rest ++ [j]))) looks erases since
      (hsame.trans left)
    rw [turns_eq]
    simp
  | refused status left => exact .refused status (hsame.trans left)

/-- The turn in which a removal looks for its album. -/
theorem Progress.look (hremoves : Removes (tasks i) u next after missing)
    (hmissing : missing.status ≠ 200) {turns : List (Fin n)}
    (hlook : (stageAfter ctx tasks t turns).plans i = .call (.findOne u) next) :
    Progress ctx tasks t i u next after (turns ++ [i]) := by
  obtain ⟨t₁, h₁⟩ := stageAfter_table ctx tasks t turns
  cases hfound : t₁.find? u with
  | none =>
    have hc := Database.perform_findOne_none hfound
    rw [← h₁] at hc
    refine .refused hmissing ?_
    rw [stageAfter_concat, (Stage.step_call tasks hlook hc).1]
    exact hremoves.absent
  | some found =>
    have hc := Database.perform_findOne_some hfound
    rw [← h₁] at hc
    obtain ⟨hrest, hstore⟩ := Stage.step_call tasks hlook hc
    rw [← stageAfter_concat] at hrest hstore
    have hturns : turns ++ [i] = turns ++ i :: [] := rfl
    refine .looked hturns ⟨by rw [hlook]; rfl, t₁, h₁, hfound⟩ (fun t₂ row h₂ hrow => .inl ?_) ?_
    · rw [h₂, h₁] at hstore
      cases hstore
      exact Option.some.inj (hrow.symm.trans hfound)
    · rw [hrest]
      exact hremoves.found found.toAlbum

/-- The turn in which a removal removes the row that it may have found. -/
theorem Progress.remove (hremoves : Removes (tasks i) u next after missing)
    (hmissing : missing.status ≠ 200) {before between : List (Fin n)} {found : Row}
    (looks : Looks ctx tasks t i u before found)
    (since : ∀ t₂ row, (stageAfter ctx tasks t (before ++ i :: between)).store = .table t₂ →
      t₂.find? u = some row → SameOrPut ctx tasks t i before between found row)
    (hremove : (stageAfter ctx tasks t (before ++ i :: between)).plans i =
      .call (.remove u) (after found.toAlbum)) :
    Progress ctx tasks t i u next after (before ++ i :: between ++ [i]) := by
  obtain ⟨t₁, h₁⟩ := stageAfter_table ctx tasks t (before ++ i :: between)
  cases herased : t₁.find? u with
  | none =>
    have hc := Database.perform_remove_none herased
    rw [← h₁] at hc
    refine .refused hmissing ?_
    rw [stageAfter_concat, (Stage.step_call tasks hremove hc).1]
    exact hremoves.gone found.toAlbum
  | some erased =>
    have hc := Database.perform_remove_some herased
    rw [← h₁] at hc
    obtain ⟨hrest, hstore⟩ := Stage.step_call tasks hremove hc
    have hturns : before ++ i :: between ++ [i] = before ++ i :: (between ++ i :: []) :=
      List.append_assoc before (i :: between) [i]
    rw [← stageAfter_concat, hturns] at hrest hstore
    refine .removed hturns looks ⟨by rw [hremove]; rfl, t₁, h₁, herased, hstore⟩
      (since t₁ erased h₁ herased) ?_
    rw [hturns, hrest]
    exact hremoves.removed found.toAlbum

/-- What one turn does to a removal. -/
theorem Progress.concat (hremoves : Removes (tasks i) u next after missing)
    (hmissing : missing.status ≠ 200) {turns : List (Fin n)}
    (h : Progress ctx tasks t i u next after turns) (j : Fin n) :
    Progress ctx tasks t i u next after (turns ++ [j]) := by
  obtain ⟨t₁, h₁⟩ := stageAfter_table ctx tasks t turns
  rcases Stage.advance_step tasks h₁ i j with hsame | ⟨rfl, call, rest, hp⟩
  · rw [← stageAfter_concat] at hsame
    exact h.concat_of_advance hsame
  · -- The removal makes a storage call, so it is at the call that its plan advances to.
    have hplan : ((stageAfter ctx tasks t turns).plans j).advance (tasks j) =
        (stageAfter ctx tasks t turns).plans j := by
      rw [hp]
      rfl
    cases h with
    | waiting left => exact .look hremoves hmissing (hplan.symm.trans left)
    | looked turns_eq looks since left =>
      subst turns_eq
      exact .remove hremoves hmissing looks since (hplan.symm.trans left)
    | removed _ _ _ _ left => cases hp.symm.trans (hplan.symm.trans left)
    | refused _ left => cases hp.symm.trans (hplan.symm.trans left)

/-- A request that makes no storage call has its answer from the beginning. -/
theorem advance_stageAfter_of_done {x : Response}
    (h : (respond ctx (tasks i).request).advance (tasks i) = .done x) (turns : List (Fin n)) :
    ((stageAfter ctx tasks t turns).plans i).advance (tasks i) = .done x := by
  induction turns using List.reverseRecOn with
  | nil => exact h
  | append_singleton turns j ih =>
    obtain ⟨t₁, h₁⟩ := stageAfter_table ctx tasks t turns
    rw [stageAfter_concat]
    rcases Stage.advance_step tasks h₁ i j with hsame | ⟨-, call, next, hp⟩
    · exact hsame.trans ih
    · rw [hp] at ih
      cases ih

/-- What all turns do to a removal. -/
theorem progress (hremoves : Removes (tasks i) u next after missing)
    (hmissing : missing.status ≠ 200)
    (first : (respond ctx (tasks i).request).advance (tasks i) = .call (.findOne u) next)
    (turns : List (Fin n)) : Progress ctx tasks t i u next after turns := by
  induction turns using List.reverseRecOn with
  | nil => exact .waiting first
  | append_singleton turns j ih => exact ih.concat hremoves hmissing j

/-- **A removal shows the album that it found, and that is the one it removes unless another request
has put a row under its id in between.** Whatever table requests start from and however they take
turns, a removal that is answered with 200 has looked for the album of the id in its path and found
a row, has erased the row of this id that was there later on, and shows the album that it found; the
two rows are the same or another request has put the second after the removal had looked. -/
theorem removal_shows_what_it_found (ctx : Context) (tasks : Fin n → Task) (t : Table)
    (turns : List (Fin n)) (i : Fin n) (hm : (tasks i).request.method = "DELETE") {x : Response}
    (hx : ((stageAfter ctx tasks t turns).plans i).value? = some x) (hstatus : x.status = 200) :
    ∃ u before between rest found erased, named? (tasks i).request = some u ∧
      turns = before ++ i :: (between ++ i :: rest) ∧
      Looks ctx tasks t i u before found ∧ Erases ctx tasks t i u before between erased ∧
      x = .json 200 found.toAlbum.response ∧
      SameOrPut ctx tasks t i before between found erased := by
  have hend : ((stageAfter ctx tasks t turns).plans i).advance (tasks i) = .done x := by
    rw [Plan.eq_done_of_value? hx]
    rfl
  rcases plan_of_removal ctx hm with ⟨y, hdone, hy⟩ | ⟨u, next, after, hnamed, first, hremoves⟩
  · have hleft := advance_stageAfter_of_done (t := t) hdone turns
    cases hend.symm.trans hleft
    exact absurd hstatus hy
  · have hmissing : (answered (tasks i).request (.error .notFound)).status ≠ 200 := by
      rw [status_answered]
      decide
    cases progress hremoves hmissing first turns with
    | waiting left => cases hend.symm.trans left
    | looked _ _ _ left => cases hend.symm.trans left
    | removed turns_eq looks erases since left =>
      cases hend.symm.trans left
      exact ⟨u, _, _, _, _, _, hnamed, turns_eq, looks, erases, rfl, since⟩
    | refused status left =>
      cases hend.symm.trans left
      exact absurd hstatus status

/-- A change and a removal of one album. -/
def changeAndRemoval (i : Fin 2) : Task :=
  { request :=
      { method := if i = 0 then "PUT" else "DELETE"
        path := "/albums/" ++ (default : AlbumId).text
        query := ""
        body := adding.body }
    now := .utc default
    id := default }

theorem removal_around_change_shows :
    (changeAndRemoval 1).request.method = "DELETE" ∧
      ∃ x,
        ((stageAfter catalog changeAndRemoval oneAlbum [1, 0, 0, 0, 1]).plans 1).value? = some x ∧
        x.status = 200 ∧
        ∃ u before between rest found erased, named? (changeAndRemoval 1).request = some u ∧
          [1, 0, 0, 0, 1] = before ++ 1 :: (between ++ 1 :: rest) ∧
          Looks catalog changeAndRemoval oneAlbum 1 u before found ∧
          Erases catalog changeAndRemoval oneAlbum 1 u before between erased ∧
          x = .json 200 found.toAlbum.response ∧
          SameOrPut catalog changeAndRemoval oneAlbum 1 before between found erased := by
  have hend : (((stageAfter catalog changeAndRemoval oneAlbum [1, 0, 0, 0, 1]).plans 1).value?.map
      (·.status)) = some 200 := by decide +kernel
  obtain ⟨x, hx, hstatus⟩ := Option.map_eq_some_iff.1 hend
  exact ⟨by decide, x, hx, hstatus, removal_shows_what_it_found catalog changeAndRemoval oneAlbum
    [1, 0, 0, 0, 1] 1 (by decide) hx hstatus⟩

/-- The title that a response shows, if it shows an album. -/
def shownTitle? (x : Response) : Option String :=
  match x.body with
  | some (.object members) =>
    match Json.last? "title" members with
    | some (.text title) => some title
    | _ => none
  | _ => none

theorem shownTitle?_json (status : Int) (a : Album) :
    shownTitle? (.json status a.response) = some a.title := rfl

/-- A removal that has looked before a change and removes after it erases the changed album, and
shows the earlier one. -/
theorem removal_around_change_shows_earlier_album :
    ∃ erased x, Erases catalog changeAndRemoval oneAlbum 1 default [] [0, 0, 0] erased ∧
      ((stageAfter catalog changeAndRemoval oneAlbum [1, 0, 0, 0, 1]).plans 1).value? = some x ∧
      x.status = 200 ∧ x ≠ .json 200 erased.toAlbum.response := by
  let changed : Row := ⟨default, "Blue", "Joni", 1, default, default⟩
  have hbefore : ((stageAfter catalog changeAndRemoval oneAlbum [1, 0, 0, 0]).plans 1).asks? =
        some (.remove default) ∧
      (stageAfter catalog changeAndRemoval oneAlbum [1, 0, 0, 0]).store =
        .table (oneAlbum.put changed) := by decide +kernel
  have hafter : (stageAfter catalog changeAndRemoval oneAlbum [1, 0, 0, 0, 1]).store =
        .table ((oneAlbum.put changed).erase default) ∧
      ((stageAfter catalog changeAndRemoval oneAlbum [1, 0, 0, 0, 1]).plans 1).value?.map
        (fun x => (x.status, shownTitle? x)) = some (200, some "Hejira") := by decide +kernel
  obtain ⟨hasks, hstore⟩ := hbefore
  obtain ⟨herased, hend⟩ := hafter
  obtain ⟨x, hx, hshown⟩ := Option.map_eq_some_iff.1 hend
  refine ⟨changed, x, ⟨hasks, _, hstore, by decide +kernel, herased⟩, hx,
    congrArg Prod.fst hshown, ?_⟩
  rintro rfl
  rw [shownTitle?_json] at hshown
  revert hshown
  decide

end Discography.Api
