import Mathlib.Logic.Function.Basic
import Discography.Proofs.ListingOrder
import Discography.Store.Scope

/-!
# A storage is a map from ids to albums

Storage calls that are served in scopes of their own are told apart from the operations of a map by
nothing. What the map keeps of an album is the album with both stamps at UTC, whether it was added
or changed; a call that fails leaves the map as it was.

* `Album.kept` — what is kept of an album that is written, or why nothing can be.
* `Holdings.Step` — one call on a map, with a rule for every way in which it can end.
* `Holdings.Step.unique` — the rules leave no choice.
* `follows` — a call in a scope of its own follows the rules.
* `storage_refines_map` — so does every sequence of calls.
-/

set_option autoImplicit false

namespace Discography

/-- A stamp at UTC, if the calendar has its UTC date. -/
def Calendar.Stamp.inUtc? (s : Calendar.Stamp) : Option Calendar.Stamp := s.toUtc?.map .utc

namespace Album

/-- An album with both stamps at UTC. -/
def inUtc? (a : Album) : Option Album :=
  match a.created.inUtc?, a.updated.inUtc? with
  | some created, some updated => some { a with created := created, updated := updated }
  | _, _ => none

/-- What is kept of an album that is written, or why nothing can be. -/
def kept (a : Album) : Except Failure Album :=
  match a.inUtc? with
  | none => .error .dateOutOfRange
  | some b => if fitsInt64 a.price then .ok b else .error .integerTooLarge

/-- An album comes before another one in a listing. -/
def Precedes (a b : Album) : Prop :=
  Store.titleKey a.title < Store.titleKey b.title ∨
    (Store.titleKey a.title = Store.titleKey b.title ∧ a.id.value < b.id.value)

end Album

namespace Store

/-! ## Maps -/

/-- A map from ids to albums. -/
abbrev Holdings := AlbumId → Option Album

/-- The elements after the first `offset` ones, at most `limit` of them. A negative offset counts as
zero, and a negative limit as none. -/
def windowOf {α : Type} (l : List α) (offset limit : Int) : List α :=
  if limit < 0 then l.drop offset.toNat else (l.drop offset.toNat).take limit.toNat

namespace Holdings

/-- A list of all albums of a map in the order of a listing. -/
structure Lists (m : Holdings) (l : List Album) : Prop where
  mem_iff : ∀ a, a ∈ l ↔ ∃ u, m u = some a
  ordered : l.Pairwise Album.Precedes

/-- The failure of an addition under an id that is taken, as it leaves a scope. -/
def idTaken : Failure :=
  .database "(sqlite3.IntegrityError) UNIQUE constraint failed: album.id" "IntegrityError"

/-- A storage call on a map: its outcome, and the map afterwards. -/
inductive Step (m : Holdings) : (c : Call) → Except Failure c.Answer → Holdings → Prop
  | inserted {a b : Album} (kept : a.kept = .ok b) (absent : m a.id = none) :
      Step m (.insert a) (.ok ()) (Function.update m a.id (some b))
  | insert_taken {a b old : Album} (kept : a.kept = .ok b) (present : m a.id = some old) :
      Step m (.insert a) (.error idTaken) m
  | insert_refused {a : Album} {f : Failure} (refused : a.kept = .error f) :
      Step m (.insert a) (.error f) m
  | updated {a b old : Album} (kept : a.kept = .ok b) (present : m a.id = some old) :
      Step m (.update a) (.ok ()) (Function.update m a.id (some b))
  | update_missing {a b : Album} (kept : a.kept = .ok b) (absent : m a.id = none) :
      Step m (.update a) (.error .notFound) m
  | update_refused {a : Album} {f : Failure} (refused : a.kept = .error f) :
      Step m (.update a) (.error f) m
  | removed {u : AlbumId} {old : Album} (present : m u = some old) :
      Step m (.remove u) (.ok ()) (Function.update m u none)
  | remove_missing {u : AlbumId} (absent : m u = none) : Step m (.remove u) (.error .notFound) m
  | found {u : AlbumId} {a : Album} (present : m u = some a) :
      Step m (.findOne u) (.ok (some a)) m
  | find_missing {u : AlbumId} (absent : m u = none) : Step m (.findOne u) (.error .notFound) m
  | listed {offset limit : Int} {l : List Album}
      (fits : fitsInt64 offset = true ∧ fitsInt64 limit = true) (lists : m.Lists l)
      (nonempty : windowOf l offset limit ≠ []) :
      Step m (.findAll offset limit) (.ok (some (windowOf l offset limit))) m
  | list_empty {offset limit : Int} {l : List Album}
      (fits : fitsInt64 offset = true ∧ fitsInt64 limit = true) (lists : m.Lists l)
      (empty : windowOf l offset limit = []) : Step m (.findAll offset limit) (.error .notFound) m
  | list_refused {offset limit : Int}
      (large : ¬ (fitsInt64 offset = true ∧ fitsInt64 limit = true)) :
      Step m (.findAll offset limit) (.error .integerTooLarge) m

/-! ## The rules leave no choice -/

variable {m m₁ m₂ : Holdings}

theorem Lists.unique {l₁ l₂ : List Album} (h₁ : m.Lists l₁) (h₂ : m.Lists l₂) : l₁ = l₂ := by
  refine eq_of_strict (R := Album.Precedes) ?_ ?_ h₁.ordered h₂.ordered fun a => ?_
  · rintro a (h | ⟨-, h⟩)
    · exact List.lt_irrefl _ h
    · exact Nat.lt_irrefl _ h
  · rintro a b c (hab | ⟨hab, hi⟩) (hbc | ⟨hbc, hj⟩)
    · exact .inl (List.lt_trans hab hbc)
    · exact .inl (hbc ▸ hab)
    · exact .inl (hab ▸ hbc)
    · exact .inr ⟨hab.trans hbc, Nat.lt_trans hi hj⟩
  · rw [h₁.mem_iff, h₂.mem_iff]

/-- The outcome of a call and the map afterwards are determined by the map before. -/
theorem Step.unique {c : Call} {x y : Except Failure c.Answer} (h₁ : m.Step c x m₁)
    (h₂ : m.Step c y m₂) : x = y ∧ m₁ = m₂ := by
  -- Two rules for one call are the same one, or the conditions of one exclude the other.
  cases h₁ <;> cases h₂ <;> grind [Lists.unique]

end Holdings

/-! ## What a table holds -/

namespace Row

theorem map_toAlbum_ofAlbum? (a : Album) : (ofAlbum? a).map toAlbum = a.inUtc? := by
  unfold ofAlbum? Album.inUtc? Calendar.Stamp.inUtc?
  cases a.created.toUtc? with
  | none => rfl
  | some created =>
    cases a.updated.toUtc? with
    | none => rfl
    | some updated => rfl

theorem kept_of_none {a : Album} (h : ofAlbum? a = none) : a.kept = .error .dateOutOfRange := by
  unfold Album.kept
  rw [← map_toAlbum_ofAlbum?, h]
  rfl

theorem kept_of_some {a : Album} {r : Row} (h : ofAlbum? a = some r) :
    a.kept = if fitsInt64 r.price then .ok r.toAlbum else .error .integerTooLarge := by
  unfold Album.kept
  rw [← map_toAlbum_ofAlbum?, h, price_of_ofAlbum? h]
  rfl

theorem toAlbum_injective : Function.Injective toAlbum := by
  intro r s h
  have hrow := congrArg ofAlbum? h
  rw [ofAlbum?_toAlbum, ofAlbum?_toAlbum] at hrow
  exact Option.some.inj hrow

end Row

namespace Table

/-- The map of a table. -/
def holdings (t : Table) : Holdings := fun u => (t.find? u).map Row.toAlbum

variable {t : Table} {u : AlbumId} {r : Row}

theorem holdings_of_none (h : t.find? u = none) : t.holdings u = none := by
  rw [holdings, h]
  rfl

theorem holdings_of_some (h : t.find? u = some r) : t.holdings u = some r.toAlbum := by
  rw [holdings, h]
  rfl

/-- The map of a table tells its rows. -/
theorem holdings_injective : Function.Injective holdings := by
  intro t s h
  refine ext_find? fun u => ?_
  exact Option.map_injective Row.toAlbum_injective (congrFun h u)

theorem holdings_put (t : Table) (r : Row) :
    (t.put r).holdings = Function.update t.holdings r.id (some r.toAlbum) := by
  funext u
  rw [holdings, find?_put, Function.update_apply]
  by_cases h : r.id = u
  · rw [if_pos h, if_pos h.symm]
    rfl
  · rw [if_neg h, if_neg (Ne.symm h)]
    rfl

theorem holdings_erase (t : Table) (id : AlbumId) :
    (t.erase id).holdings = Function.update t.holdings id none := by
  funext u
  rw [holdings, find?_erase, Function.update_apply]
  by_cases h : id = u
  · rw [if_pos h, if_pos h.symm]
    rfl
  · rw [if_neg h, if_neg (Ne.symm h)]
    rfl

theorem lists_holdings (t : Table) : t.holdings.Lists (t.listed.map Row.toAlbum) where
  mem_iff a := by
    simp only [List.mem_map, holdings, Option.map_eq_some_iff]
    constructor
    · rintro ⟨r, hr, rfl⟩
      exact ⟨r.id, r, mem_rows_iff.1 (t.listed_perm.mem_iff.1 hr), rfl⟩
    · rintro ⟨u, r, hr, rfl⟩
      obtain rfl := id_of_find? hr
      exact ⟨r, t.listed_perm.mem_iff.2 (mem_rows_iff.2 hr), rfl⟩
  ordered := List.pairwise_map.2 t.listed_pairwise

theorem windowOf_listed (t : Table) (offset limit : Int) :
    windowOf (t.listed.map Row.toAlbum) offset limit = (t.window offset limit).map Row.toAlbum := by
  unfold windowOf window
  split
  · rw [List.map_drop]
  · rw [List.map_take, List.map_drop]

end Table

/-! ## Calls in scopes of their own -/

/-- A storage call and its outcome. -/
structure Answered where
  call : Call
  outcome : Except Failure call.Answer

namespace Database

/-- The outcomes of storage calls, each in a scope of its own. -/
def answers (d : Database) : List Call → List Answered
  | [] => []
  | c :: cs => ⟨c, (d.performScoped c).outcome⟩ :: (d.performScoped c).stored.answers cs

/-- The database after storage calls, each in a scope of its own. -/
def after (d : Database) : List Call → Database
  | [] => d
  | c :: cs => (d.performScoped c).stored.after cs

end Database

/-- A call in a scope of its own takes a step of the map of the table. -/
def Follows (t : Table) (c : Call) : Prop :=
  ∃ t', ((Database.table t).performScoped c).stored = .table t' ∧
    t.holdings.Step c ((Database.table t).performScoped c).outcome t'.holdings

theorem Follows.of_perform {t t' : Table} {c : Call} {x : Except Failure c.Answer}
    (h : (Database.table t).perform c = (x, .table t'))
    (step : t.holdings.Step c (close x).1 t'.holdings) : Follows t c := by
  unfold Follows Database.performScoped
  rw [h]
  exact ⟨t', rfl, step⟩

theorem follows_insert (t : Table) (a : Album) : Follows t (.insert a) := by
  cases hrow : Row.ofAlbum? a with
  | none =>
    exact .of_perform (Database.perform_insert_dateOutOfRange hrow)
      (.insert_refused (Row.kept_of_none hrow))
  | some r =>
    have hkept := Row.kept_of_some hrow
    have hid := Row.id_of_ofAlbum? hrow
    cases hfits : fitsInt64 r.price with
    | false =>
      rw [hfits] at hkept
      exact .of_perform (Database.perform_insert_tooLarge hrow hfits) (.insert_refused hkept)
    | true =>
      rw [hfits] at hkept
      cases hfound : t.find? r.id with
      | none =>
        refine .of_perform (Database.perform_insert_new hrow hfits hfound) ?_
        rw [Table.holdings_put, hid]
        exact .inserted hkept (Table.holdings_of_none (hid ▸ hfound))
      | some old =>
        exact .of_perform (Database.perform_insert_duplicate hrow hfits hfound)
          (.insert_taken hkept (Table.holdings_of_some (hid ▸ hfound)))

theorem follows_update (t : Table) (a : Album) : Follows t (.update a) := by
  cases hrow : Row.ofAlbum? a with
  | none =>
    exact .of_perform (Database.perform_update_dateOutOfRange hrow)
      (.update_refused (Row.kept_of_none hrow))
  | some r =>
    have hkept := Row.kept_of_some hrow
    have hid := Row.id_of_ofAlbum? hrow
    cases hfits : fitsInt64 r.price with
    | false =>
      rw [hfits] at hkept
      exact .of_perform (Database.perform_update_tooLarge hrow hfits) (.update_refused hkept)
    | true =>
      rw [hfits] at hkept
      cases hfound : t.find? r.id with
      | none =>
        exact .of_perform (Database.perform_update_none hrow hfits hfound)
          (.update_missing hkept (Table.holdings_of_none (hid ▸ hfound)))
      | some old =>
        refine .of_perform (Database.perform_update_some hrow hfits hfound) ?_
        rw [Table.holdings_put, hid]
        exact .updated hkept (Table.holdings_of_some (hid ▸ hfound))

theorem follows_remove (t : Table) (u : AlbumId) : Follows t (.remove u) := by
  cases hfound : t.find? u with
  | none =>
    exact .of_perform (Database.perform_remove_none hfound)
      (.remove_missing (Table.holdings_of_none hfound))
  | some r =>
    refine .of_perform (Database.perform_remove_some hfound) ?_
    rw [Table.holdings_erase]
    exact .removed (Table.holdings_of_some hfound)

theorem follows_findOne (t : Table) (u : AlbumId) : Follows t (.findOne u) := by
  cases hfound : t.find? u with
  | none =>
    exact .of_perform (Database.perform_findOne_none hfound)
      (.find_missing (Table.holdings_of_none hfound))
  | some r =>
    exact .of_perform (Database.perform_findOne_some hfound)
      (.found (Table.holdings_of_some hfound))

theorem follows_findAll (t : Table) (offset limit : Int) : Follows t (.findAll offset limit) := by
  have hc := Database.perform_findAll t offset limit
  have hwindow := t.windowOf_listed offset limit
  by_cases hfits : fitsInt64 offset = true ∧ fitsInt64 limit = true
  · rw [if_pos (by rw [hfits.1, hfits.2]; rfl)] at hc
    cases hrows : t.window offset limit with
    | nil =>
      rw [hrows] at hc hwindow
      exact .of_perform hc (.list_empty hfits t.lists_holdings hwindow)
    | cons r rs =>
      rw [hrows] at hc hwindow
      refine .of_perform hc ?_
      show t.holdings.Step (.findAll offset limit) (.ok (some ((r :: rs).map Row.toAlbum))) _
      rw [← hwindow]
      exact .listed hfits t.lists_holdings (by rw [hwindow]; exact List.cons_ne_nil _ _)
  · rw [if_neg (by rwa [Bool.and_eq_true])] at hc
    exact .of_perform hc (.list_refused hfits)

/-- **Whatever is called, a call in a scope of its own takes a step of the map.** -/
theorem follows (t : Table) (c : Call) : Follows t c := by
  cases c with
  | insert a => exact follows_insert t a
  | findAll offset limit => exact follows_findAll t offset limit
  | findOne u => exact follows_findOne t u
  | update a => exact follows_update t a
  | remove u => exact follows_remove t u

/-! ## Sequences of calls -/

/-- A sequence of storage calls on a map: their outcomes, and the map afterwards. -/
inductive Holdings.Run : Holdings → List Call → List Answered → Holdings → Prop
  | nil {m : Holdings} : Run m [] [] m
  | cons {m m₁ m₂ : Holdings} {c : Call} {x : Except Failure c.Answer} {cs : List Call}
      {answers : List Answered} (step : m.Step c x m₁) (rest : Run m₁ cs answers m₂) :
      Run m (c :: cs) (⟨c, x⟩ :: answers) m₂

theorem Holdings.Run.unique {m m₁ m₂ : Holdings} {cs : List Call} {xs ys : List Answered}
    (h₁ : m.Run cs xs m₁) (h₂ : m.Run cs ys m₂) : xs = ys ∧ m₁ = m₂ := by
  induction h₁ generalizing ys with
  | nil =>
    cases h₂ with
    | nil => exact ⟨rfl, rfl⟩
  | cons step rest ih =>
    cases h₂ with
    | cons step' rest' =>
      obtain ⟨rfl, rfl⟩ := step.unique step'
      obtain ⟨rfl, rfl⟩ := ih rest'
      exact ⟨rfl, rfl⟩

/-- Calls in scopes of their own run as on the map of the table. -/
theorem run_holdings (t : Table) (cs : List Call) :
    ∃ t', (Database.table t).after cs = .table t' ∧
      t.holdings.Run cs ((Database.table t).answers cs) t'.holdings := by
  induction cs generalizing t with
  | nil => exact ⟨t, rfl, .nil⟩
  | cons c cs ih =>
    obtain ⟨t₁, hstored, step⟩ := follows t c
    obtain ⟨t₂, hafter, rest⟩ := ih t₁
    unfold Database.after Database.answers
    rw [hstored]
    exact ⟨t₂, hafter, .cons step rest⟩

/-- **A storage is a map.** Over every table, storage calls in scopes of their own have the outcomes
that the operations of a map from ids to albums have, and leave the rows that the map then has; the
rules of the map leave nothing else to happen. -/
theorem storage_refines_map (t : Table) (cs : List Call) :
    ∃ t', (Database.table t).after cs = .table t' ∧
      (∀ r, r ∈ t'.rows ↔ t'.holdings r.id = some r.toAlbum) ∧
      ∀ answers m, t.holdings.Run cs answers m ↔
        answers = (Database.table t).answers cs ∧ m = t'.holdings := by
  obtain ⟨t', hafter, hrun⟩ := run_holdings t cs
  refine ⟨t', hafter, fun r => ?_, fun answers m => ⟨fun h => h.unique hrun, ?_⟩⟩
  · rw [Table.mem_rows_iff, Table.holdings, Option.map_eq_some_iff]
    constructor
    · intro h
      exact ⟨r, h, rfl⟩
    · rintro ⟨s, hs, he⟩
      rw [hs, Row.toAlbum_injective he]
  · rintro ⟨rfl, rfl⟩
    exact hrun

end Store

end Discography
