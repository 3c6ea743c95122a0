import Discography.Proofs.Storage
import Discography.Store.Scope

/-!
# A scope is a transaction

A scope stores the rows that its actions have added and then committed, and no others. When added
rows are written does not matter: all rows since the last commit or rollback are stored by the next
commit, or none of them.

* `Ledger.of` — what actions have committed and what they have added since.
* `Fails` — the actions that end a scope, and why.
* `insertAll_cases` — rows are written together, or the first that cannot be is to blame.
* `Tracks.act` — each action is `Handled`; `Tracks.actAll` — what all of them do to a session.
* `scope_is_transaction` — what a scope leaves, and what its caller sees.
-/

set_option autoImplicit false

namespace Discography.Store

/-! ## What actions have added -/

/-- Rows that actions have added: those that are committed, and those added since the last commit or
rollback. -/
structure Ledger where
  committed : List Row
  added : List Row

namespace Ledger

/-- The ledger after one more action. -/
def act (l : Ledger) : Action → Ledger
  | .add a => { l with added := l.added ++ (Row.ofAlbum? a).toList }
  | .commit => ⟨l.committed ++ l.added, []⟩
  | .rollback => { l with added := [] }
  | .flush | .connect | .raise _ => l

/-- The ledger of actions that have been done. -/
def of (done : List Action) : Ledger := done.foldl act ⟨[], []⟩

theorem of_concat (done : List Action) (a : Action) : of (done ++ [a]) = (of done).act a := by
  rw [of, List.foldl_append]
  rfl

end Ledger

/-- Rows that can be written beside those that are held. -/
structure Accepted (held rows : List Row) : Prop where
  fits : ∀ r ∈ rows, fitsInt64 r.price = true
  free : ∀ r ∈ rows, ∀ s ∈ held, s.id ≠ r.id
  distinct : rows.Pairwise fun a b => a.id ≠ b.id

/-- Rows that cannot all be written beside those that are held, for what is wrong with the first one
that cannot be. -/
inductive Rejected (held rows : List Row) : Failure → Prop
  | tooLarge {before after : List Row} {r : Row} (split : rows = before ++ r :: after)
      (accepted : Accepted held before) (large : fitsInt64 r.price = false) :
      Rejected held rows .integerTooLarge
  | taken {before after : List Row} {r s : Row} (split : rows = before ++ r :: after)
      (accepted : Accepted held before) (fits : fitsInt64 r.price = true)
      (mem : s ∈ held ++ before) (same : s.id = r.id) : Rejected held rows .duplicateId

/-- The actions that fail after others have been done in a scope on a table, and why. -/
inductive Fails (t : Table) (done : List Action) : Action → Failure → Prop
  | raise (f : Failure) : Fails t done (.raise f) f
  | add {a : Album} (outside : Row.ofAlbum? a = none) : Fails t done (.add a) .dateOutOfRange
  | flush {f : Failure}
      (rejected : Rejected (t.rows ++ (Ledger.of done).committed) (Ledger.of done).added f) :
      Fails t done .flush f
  | commit {f : Failure}
      (rejected : Rejected (t.rows ++ (Ledger.of done).committed) (Ledger.of done).added f) :
      Fails t done .commit f

/-! ## Writing rows together -/

section Writing

variable {held held' rows : List Row} {f : Failure}

theorem Accepted.not_rejected (h : Accepted held rows) : ¬ Rejected held rows f := by
  rintro (⟨rfl, -, large⟩ | ⟨rfl, -, -, mem, same⟩)
  · rw [h.fits _ (by simp)] at large
    cases large
  · rcases List.mem_append.1 mem with hheld | hbefore
    · exact h.free _ (by simp) _ hheld same
    · exact (List.pairwise_append.1 h.distinct).2.2 _ hbefore _ (by simp) same

theorem Accepted.of_mem (h : Accepted held rows) (hmem : ∀ r ∈ held', r ∈ held) :
    Accepted held' rows where
  fits := h.fits
  free r hr s hs := h.free r hr s (hmem s hs)
  distinct := h.distinct

theorem Rejected.of_mem_iff (h : Rejected held rows f) (hmem : ∀ r, r ∈ held ↔ r ∈ held') :
    Rejected held' rows f := by
  cases h with
  | tooLarge split accepted large =>
    exact .tooLarge split (accepted.of_mem fun r hr => (hmem r).2 hr) large
  | taken split accepted fits mem same =>
    refine .taken split (accepted.of_mem fun r hr => (hmem r).2 hr) fits ?_ same
    rwa [List.mem_append, ← hmem, ← List.mem_append]

theorem accepted_nil (held : List Row) : Accepted held [] where
  fits _ hr := absurd hr List.not_mem_nil
  free _ hr := absurd hr List.not_mem_nil
  distinct := .nil

theorem Accepted.cons {r : Row} (hfits : fitsInt64 r.price = true) (hfree : ∀ s ∈ held, s.id ≠ r.id)
    (h : Accepted (r :: held) rows) : Accepted held (r :: rows) where
  fits := List.forall_mem_cons.2 ⟨hfits, h.fits⟩
  free := List.forall_mem_cons.2 ⟨hfree, fun s hs x hx => h.free s hs x (List.mem_cons_of_mem r hx)⟩
  distinct := List.pairwise_cons.2 ⟨fun s hs => h.free s hs r List.mem_cons_self, h.distinct⟩

theorem Rejected.cons {r : Row} (hfits : fitsInt64 r.price = true)
    (hfree : ∀ s ∈ held, s.id ≠ r.id) (h : Rejected (r :: held) rows f) :
    Rejected held (r :: rows) f := by
  cases h with
  | tooLarge split accepted large =>
    exact .tooLarge (congrArg (r :: ·) split) (accepted.cons hfits hfree) large
  | taken split accepted fits mem same =>
    refine .taken (congrArg (r :: ·) split) (accepted.cons hfits hfree) fits ?_ same
    exact List.perm_middle.symm.mem_iff.1 mem

end Writing

theorem putRow_perm {r : Row} {rows : List Row} (h : ∀ s ∈ rows, s.id ≠ r.id) :
    (putRow r rows).Perm (r :: rows) := by
  induction rows with
  | nil => exact .refl _
  | cons a rest ih =>
    unfold putRow
    split
    · exact .refl _
    · split
      · rename_i hid
        refine absurd ?_ (h a List.mem_cons_self)
        cases hr : r.id
        cases ha : a.id
        simp_all
      · exact ((ih fun s hs => h s (List.mem_cons_of_mem a hs)).cons a).trans (.swap r a rest)

theorem Table.find?_eq_none_iff {t : Table} {id : AlbumId} :
    t.find? id = none ↔ ∀ s ∈ t.rows, s.id ≠ id := by
  simp [find?, List.find?_eq_none]

namespace Database

variable {t : Table} {r old : Row}

theorem insertRow_tooLarge (h : fitsInt64 r.price = false) :
    (table t).insertRow r = .error .integerTooLarge := by
  simp [insertRow, table?, h]

theorem insertRow_taken (hfits : fitsInt64 r.price = true) (hfound : t.find? r.id = some old) :
    (table t).insertRow r = .error .duplicateId := by
  simp [insertRow, table?, hfits, hfound]

theorem insertRow_new (hfits : fitsInt64 r.price = true) (hfound : t.find? r.id = none) :
    (table t).insertRow r = .ok (.table (t.put r)) := by
  simp [insertRow, table?, hfits, hfound]

end Database

namespace Session

/-- Writing a row and then others. -/
theorem insertAll_cons (d : Database) (r : Row) (rows : List Row) :
    insertAll d (r :: rows) = (d.insertRow r).bind fun e => insertAll e rows := by
  rw [insertAll]
  cases d.insertRow r <;> rfl

theorem insertAll_append (d : Database) (xs ys : List Row) :
    insertAll d (xs ++ ys) = (insertAll d xs).bind fun e => insertAll e ys := by
  induction xs generalizing d with
  | nil => rfl
  | cons x xs ih =>
    rw [List.cons_append, insertAll_cons, insertAll_cons]
    cases d.insertRow x with
    | error f => rfl
    | ok e => exact ih e

/-- Rows are all written into a table, which has them besides its own then, or the first row that
cannot be written is to blame. -/
theorem insertAll_cases (t : Table) (rows : List Row) :
    (∃ t', insertAll (.table t) rows = .ok (.table t') ∧ t'.rows.Perm (t.rows ++ rows) ∧
        Accepted t.rows rows) ∨
      ∃ f, insertAll (.table t) rows = .error f ∧ Rejected t.rows rows f := by
  induction rows generalizing t with
  | nil => exact .inl ⟨t, rfl, by rw [List.append_nil], accepted_nil t.rows⟩
  | cons r rows ih =>
    rw [insertAll_cons]
    cases hfits : fitsInt64 r.price with
    | false =>
      rw [Database.insertRow_tooLarge hfits]
      exact .inr ⟨_, rfl, .tooLarge (List.nil_append _).symm (accepted_nil _) hfits⟩
    | true =>
      cases hfound : t.find? r.id with
      | some old =>
        rw [Database.insertRow_taken hfits hfound]
        refine .inr ⟨_, rfl, .taken (List.nil_append _).symm (accepted_nil _) hfits ?_
          (Table.id_of_find? hfound)⟩
        rw [List.append_nil]
        exact List.mem_of_find?_eq_some hfound
      | none =>
        rw [Database.insertRow_new hfits hfound]
        have hfree := Table.find?_eq_none_iff.1 hfound
        have hput : (t.put r).rows.Perm (r :: t.rows) := putRow_perm hfree
        rcases ih (t.put r) with ⟨t', hok, hperm, haccepted⟩ | ⟨f, herror, hrejected⟩
        · refine .inl ⟨t', hok, hperm.trans ?_,
            .cons hfits hfree (haccepted.of_mem fun s hs => hput.mem_iff.2 hs)⟩
          exact (hput.append_right rows).trans List.perm_middle.symm
        · exact .inr ⟨f, herror, .cons hfits hfree (hrejected.of_mem_iff fun s => hput.mem_iff)⟩

theorem commit_of_flush {s s' : Session} (hsound : s.broken = none) (h : s.flush = (.ok (), s')) :
    s.commit = (.ok (), { s' with stored := s'.working }) := by
  simp only [commit, hsound, h]

theorem commit_of_flush_error {s s' : Session} {f : Failure} (hsound : s.broken = none)
    (h : s.flush = (.error f, s')) : s.commit = (.error f, s') := by
  simp only [commit, hsound, h]

end Session

/-! ## What a session keeps track of -/

/-- A session in a scope on a table, after actions that have been done: the table that is stored has
the committed rows besides its own, and of the rows added since then some are written on top of it
and the others are pending. -/
structure Tracks (t : Table) (done : List Action) (s : Session) (stored : Table)
    (written : List Row) : Prop where
  stored_eq : s.stored = .table stored
  rows : stored.rows.Perm (t.rows ++ (Ledger.of done).committed)
  working : Session.insertAll (.table stored) written = .ok s.working
  added : (Ledger.of done).added = written ++ s.pending
  sound : s.broken = none

namespace Tracks

variable {t k : Table} {done : List Action} {s : Session} {written : List Row}

theorem start (t : Table) : Tracks t [] (.begin (.table t)) t [] where
  stored_eq := rfl
  rows := by
    show t.rows.Perm (t.rows ++ [])
    rw [List.append_nil]
  working := rfl
  added := rfl
  sound := rfl

/-- The statements of the session see a table. -/
theorem working_eq (h : Tracks t done s k written) : ∃ k', s.working = .table k' := by
  rcases Session.insertAll_cases k written with ⟨k', hok, -⟩ | ⟨f, herror, -⟩
  · exact ⟨k', Except.ok.inj (h.working.symm.trans hok)⟩
  · cases h.working.symm.trans herror

/-- A flush writes all rows added since the last commit or rollback, or fails for the first of them
that cannot be written. -/
theorem flush (h : Tracks t done s k written) :
    (∃ s', s.flush = (.ok (), s') ∧ s'.pending = [] ∧
        Tracks t done s' k (Ledger.of done).added ∧
        Accepted (t.rows ++ (Ledger.of done).committed) (Ledger.of done).added) ∨
      ∃ f s', s.flush = (.error f, s') ∧ s'.stored = .table k ∧
        Rejected (t.rows ++ (Ledger.of done).committed) (Ledger.of done).added f := by
  have hall : Session.insertAll (.table k) (Ledger.of done).added =
      Session.insertAll s.working s.pending := by
    rw [h.added, Session.insertAll_append, h.working]
    rfl
  have hmem (r : Row) := h.rows.mem_iff (a := r)
  unfold Session.flush
  rw [h.sound, ← hall]
  rcases Session.insertAll_cases k (Ledger.of done).added with
    ⟨k', hok, -, haccepted⟩ | ⟨f, herror, hrejected⟩
  · have haccepted := haccepted.of_mem fun r hr => (hmem r).2 hr
    split
    · rename_i hpending
      have hpending := List.isEmpty_iff.1 hpending
      have hadded := h.added
      rw [hpending, List.append_nil] at hadded
      exact .inl ⟨s, rfl, hpending, ⟨h.stored_eq, h.rows, hadded ▸ h.working,
        by rw [hpending, List.append_nil], h.sound⟩, haccepted⟩
    · rw [hok]
      exact .inl ⟨_, rfl, rfl, ⟨h.stored_eq, h.rows, hok, (List.append_nil _).symm, rfl⟩,
        haccepted⟩
  · have hrejected := hrejected.of_mem_iff hmem
    split
    · rename_i hpending
      have hadded := h.added
      rw [List.isEmpty_iff.1 hpending, List.append_nil] at hadded
      rw [hadded, h.working] at herror
      cases herror
    · rw [herror]
      exact .inr ⟨f, _, rfl, h.stored_eq, hrejected⟩

/-- An action that leaves the ledger as it is needs nothing of the session. -/
theorem concat_of_ledger_eq (h : Tracks t done s k written) {a : Action}
    (hledger : (Ledger.of done).act a = Ledger.of done) :
    Tracks t (done ++ [a]) s k written where
  stored_eq := h.stored_eq
  rows := by
    rw [Ledger.of_concat, hledger]
    exact h.rows
  working := h.working
  added := by
    rw [Ledger.of_concat, hledger]
    exact h.added
  sound := h.sound

end Tracks

/-- What one action can do to a session: it is done, and the session keeps track of it, or it fails,
and what is stored stays as it is. -/
def Handled (t k : Table) (done : List Action) (s : Session) (a : Action) : Prop :=
  (∃ s' k' written', s.act a = (.ok (), s') ∧ Tracks t (done ++ [a]) s' k' written' ∧
      ∀ f, ¬ Fails t done a f) ∨
    ∃ f s', s.act a = (.error f, s') ∧ s'.stored = .table k ∧ Fails t done a f

namespace Tracks

variable {t k : Table} {done : List Action} {s : Session} {written : List Row}

theorem handled_add (h : Tracks t done s k written) (a : Album) : Handled t k done s (.add a) := by
  cases hrow : Row.ofAlbum? a with
  | none =>
    refine .inr ⟨.dateOutOfRange, s, ?_, h.stored_eq, .add hrow⟩
    simp only [Session.act, Session.add, hrow]
  | some r =>
    refine .inl ⟨{ s with pending := s.pending ++ [r] }, k, written, ?_, ⟨h.stored_eq, ?_,
      h.working, ?_, h.sound⟩, fun f hf => ?_⟩
    · simp only [Session.act, Session.add, hrow]
    · rw [Ledger.of_concat]
      exact h.rows
    · rw [Ledger.of_concat]
      simp only [Ledger.act, hrow, h.added, Option.toList_some, List.append_assoc]
    · cases hf with
      | add outside => cases outside.symm.trans hrow

theorem handled_flush (h : Tracks t done s k written) : Handled t k done s .flush := by
  rcases h.flush with ⟨s', hflush, -, htracks, haccepted⟩ | ⟨f, s', hflush, hstored, hrejected⟩
  · refine .inl ⟨s', k, _, hflush, htracks.concat_of_ledger_eq rfl, fun f hf => ?_⟩
    cases hf with
    | flush rejected => exact haccepted.not_rejected rejected
  · exact .inr ⟨f, s', hflush, hstored, .flush hrejected⟩

theorem handled_commit (h : Tracks t done s k written) : Handled t k done s .commit := by
  rcases h.flush with
    ⟨s', hflush, hpending, htracks, haccepted⟩ | ⟨f, s', hflush, hstored, hrejected⟩
  · rcases Session.insertAll_cases k (Ledger.of done).added with
      ⟨k', hok, hperm, -⟩ | ⟨f, herror, -⟩
    · have hworking : s'.working = .table k' := Except.ok.inj (htracks.working.symm.trans hok)
      refine .inl ⟨_, k', [], Session.commit_of_flush h.sound hflush, ⟨hworking, ?_,
        congrArg Except.ok hworking.symm, ?_, htracks.sound⟩, fun f hf => ?_⟩
      · rw [Ledger.of_concat]
        show k'.rows.Perm (t.rows ++ ((Ledger.of done).committed ++ (Ledger.of done).added))
        rw [← List.append_assoc]
        exact hperm.trans (h.rows.append_right _)
      · rw [Ledger.of_concat]
        exact hpending.symm
      · cases hf with
        | commit rejected => exact haccepted.not_rejected rejected
    · cases htracks.working.symm.trans herror
  · exact .inr ⟨f, s', Session.commit_of_flush_error h.sound hflush, hstored, .commit hrejected⟩

theorem handled_rollback (h : Tracks t done s k written) : Handled t k done s .rollback := by
  refine .inl ⟨s.rollback, k, [], rfl, ⟨h.stored_eq, ?_, congrArg Except.ok h.stored_eq.symm, ?_,
    rfl⟩, fun f hf => by cases hf⟩
  · rw [Ledger.of_concat]
    exact h.rows
  · rw [Ledger.of_concat]
    rfl

theorem handled_connect (h : Tracks t done s k written) : Handled t k done s .connect := by
  obtain ⟨k', hworking⟩ := h.working_eq
  have hconnect : s.connect = .ok () := by
    unfold Session.connect
    rw [h.sound, hworking]
    rfl
  exact .inl ⟨s, k, written, congrArg (·, s) hconnect, h.concat_of_ledger_eq rfl,
    fun f hf => by cases hf⟩

/-- What one action does to a session. -/
theorem act (h : Tracks t done s k written) (a : Action) : Handled t k done s a := by
  cases a with
  | add a => exact h.handled_add a
  | flush => exact h.handled_flush
  | commit => exact h.handled_commit
  | rollback => exact h.handled_rollback
  | connect => exact h.handled_connect
  | raise f => exact .inr ⟨f, s, rfl, h.stored_eq, .raise f⟩

/-- What actions do to a session, one after the other: all that are done are actions that do not
fail, and the session keeps track of them. Then none is left, or the next one fails. -/
theorem actAll (h : Tracks t done s k written) (actions : List Action) :
    ∃ more rest k', actions = more ++ rest ∧ (s.actAll actions).2.stored = .table k' ∧
      k'.rows.Perm (t.rows ++ (Ledger.of (done ++ more)).committed) ∧
      (∀ before a after f, more = before ++ a :: after → ¬ Fails t (done ++ before) a f) ∧
      (rest = [] ∧ (s.actAll actions).1 = .ok () ∨
        ∃ a after f, rest = a :: after ∧ Fails t (done ++ more) a f ∧
          (s.actAll actions).1 = .error f) := by
  induction actions generalizing done s k written with
  | nil =>
    refine ⟨[], [], k, rfl, h.stored_eq, ?_, ?_, .inl ⟨rfl, rfl⟩⟩
    · rw [List.append_nil]
      exact h.rows
    · intro before a after f hnil
      simp at hnil
  | cons a actions ih =>
    rcases h.act a with ⟨s', k', written', hact, htracks, hdone⟩ | ⟨f, s', hact, hstored, hfails⟩
    · have hnext : s.actAll (a :: actions) = s'.actAll actions := by
        rw [Session.actAll, hact]
      obtain ⟨more, rest, k'', rfl, hstored, hperm, hmore, hrest⟩ := ih htracks
      rw [← hnext] at hstored hrest
      rw [List.append_assoc, List.singleton_append] at hperm hrest
      refine ⟨a :: more, rest, k'', rfl, hstored, hperm, ?_, hrest⟩
      rintro (_ | ⟨b, before⟩) x after f hsplit
      · obtain ⟨rfl, -⟩ := List.cons.inj hsplit
        rw [List.append_nil]
        exact hdone f
      · obtain ⟨rfl, hlater⟩ := List.cons.inj hsplit
        have hx := hmore before x after f hlater
        rwa [List.append_assoc, List.singleton_append] at hx
    · have hend : s.actAll (a :: actions) = (.error f, s') := by
        rw [Session.actAll, hact]
      refine ⟨[], a :: actions, k, rfl, ?_, ?_, ?_, .inr ⟨a, actions, f, rfl, ?_, ?_⟩⟩
      · rw [hend]
        exact hstored
      · rw [List.append_nil]
        exact h.rows
      · intro before x after f' hnil
        simp at hnil
      · rw [List.append_nil]
        exact hfails
      · rw [hend]

end Tracks

/-! ## Scopes one after the other -/

/-- The database after scopes, one after the other. -/
def Database.afterScopes (d : Database) (scopes : List (List Action)) : Database :=
  scopes.foldl (fun d actions => (d.scope actions).stored) d

/-- How a scope that ends in a failure looks from outside: a failure of the database layer is
converted and reported once, every other failure leaves the scope as it is. -/
structure Surfaces (f : Failure) (seen : Scoped Unit) : Prop where
  converted : f.isSql = true → seen.outcome = .error (.database f.text f.kindName) ∧
    seen.events = [failureEvent f]
  unchanged : f.isSql = false → seen.outcome = .error f ∧ seen.events = []

/-- A scope does what a transaction does, for a table. Its actions are done up to the first that
fails, and what is stored then is the table and the rows that they have committed. -/
structure Transacts (t t' : Table) (actions done rest : List Action) (seen : Scoped Unit) :
    Prop where
  split : actions = done ++ rest
  stored : seen.stored = .table t'
  rows : t'.rows.Perm (t.rows ++ (Ledger.of done).committed)
  succeed : ∀ before a after f, done = before ++ a :: after → ¬ Fails t before a f
  ends : rest = [] ∧ seen.outcome = .ok () ∧ seen.events = [] ∨
    ∃ a after f, rest = a :: after ∧ Fails t done a f ∧ Surfaces f seen

theorem surfaces_close {f : Failure} {seen : Scoped Unit}
    (h : (seen.outcome, seen.events) = close (.error f)) : Surfaces f seen where
  converted hsql := by
    rw [close_error, if_pos hsql] at h
    exact Prod.mk.inj h
  unchanged hsql := by
    rw [close_error, hsql] at h
    exact Prod.mk.inj h

/-- A scope on a table is a transaction. -/
theorem transacts_scope (t : Table) (actions : List Action) :
    ∃ t' done rest, Transacts t t' actions done rest ((Database.table t).scope actions) := by
  obtain ⟨done, rest, t', hsplit, hstored, hperm, hdone, hrest⟩ := (Tracks.start t).actAll actions
  refine ⟨t', done, rest, hsplit, hstored, hperm, hdone, ?_⟩
  rcases hrest with ⟨hnil, hok⟩ | ⟨a, after, f, hnext, hfails, herror⟩
  · refine .inl ⟨hnil, ?_, ?_⟩ <;> simp only [Database.scope, hok, close]
  · refine .inr ⟨a, after, f, hnext, hfails, surfaces_close ?_⟩
    simp only [Database.scope, herror]

/-- Scopes on a table leave a table, whatever happens in them. -/
theorem afterScopes_table (t : Table) (scopes : List (List Action)) :
    ∃ t', (Database.table t).afterScopes scopes = .table t' := by
  induction scopes generalizing t with
  | nil => exact ⟨t, rfl⟩
  | cons actions scopes ih =>
    obtain ⟨t', _, _, htransacts⟩ := transacts_scope t actions
    obtain ⟨t'', h⟩ := ih t'
    refine ⟨t'', ?_⟩
    rw [← h, ← htransacts.stored]
    rfl

/-- Of scopes one after the other, each is a transaction on what those before it have left, however
they ended. It stores the rows that its actions add and then commit, and no others: what is added
and not committed is forgotten, and so is all that a failing flush or commit should have written. A
failure of the database layer ends it in a database error and one report, any other failure in
itself. -/
theorem scope_is_transaction (t₀ : Table) (earlier : List (List Action)) (actions : List Action) :
    ∃ t t' done rest, (Database.table t₀).afterScopes earlier = .table t ∧
      Transacts t t' actions done rest ((Database.table t).scope actions) ∧
      (Database.table t₀).afterScopes (earlier ++ [actions]) = .table t' := by
  obtain ⟨t, hearlier⟩ := afterScopes_table t₀ earlier
  obtain ⟨t', done, rest, htransacts⟩ := transacts_scope t actions
  refine ⟨t, t', done, rest, hearlier, htransacts, ?_⟩
  rw [← htransacts.stored, ← hearlier, Database.afterScopes, List.foldl_append]
  rfl

end Discography.Store
