import Discography.Proofs.AlbumMap

/-!
# Storage calls that share a session

A session that serves one storage call after the other is as good as a new one for each call, except
after one kind of failure: an insertion that fails as its row is written leaves the session spoiled.
From then on it refuses every call and stores nothing, until whoever owns the session rolls it back;
a scope does that at its end.

* `Spoils` — insertions that fail as their rows are written.
* `perform_of_spoils`, `perform_of_not_spoils`, `perform_of_broken` — what each call leaves behind.
* `agree_of_intact` — calls agree as long as none before them has spoiled the session.
* `shared_session_agrees` — every sequence of calls, before and after the first that spoils.
-/

set_option autoImplicit false

namespace Discography.Store

/-! ## What calls leave behind -/

/-- Insertions that fail as their rows are written, and why. -/
inductive Spoils (t : Table) : Call → Failure → Prop
  | tooLarge {a : Album} {r : Row} (row_eq : Row.ofAlbum? a = some r)
      (large : fitsInt64 r.price = false) : Spoils t (.insert a) .integerTooLarge
  | taken {a : Album} {r old : Row} (row_eq : Row.ofAlbum? a = some r)
      (fits : fitsInt64 r.price = true) (present : t.find? r.id = some old) :
      Spoils t (.insert a) .duplicateId

/-- How a session that a failure has spoiled refuses a call. An album that has no row is refused for
that reason, before the session is asked. -/
def refusal (f : Failure) : Call → Failure
  | .insert a | .update a =>
    if (Row.ofAlbum? a).isSome then .pendingRollback f else .dateOutOfRange
  | .findAll _ _ | .findOne _ | .remove _ => .pendingRollback f

namespace Session

variable {t : Table} {c : Call} {f : Failure}

theorem perform_of_spoils (h : Spoils t c f) :
    (begin (.table t)).perform c = (.error f, ⟨.table t, .table t, [], some f⟩) := by
  cases h with
  | tooLarge row_eq large =>
    simp [perform, add, begin, commit, flush, insertAll, Database.insertRow, Database.table?,
      row_eq, large]
  | taken row_eq fits present =>
    simp [perform, add, begin, commit, flush, insertAll, Database.insertRow, Database.table?,
      row_eq, fits, present]

theorem perform_findAll_session (s : Session) (offset limit : Int) :
    (s.perform (.findAll offset limit)).2 = s := by
  simp only [perform]
  split <;> rfl

theorem perform_findOne_session (s : Session) (u : AlbumId) : (s.perform (.findOne u)).2 = s := by
  simp only [perform]
  split <;> rfl

/-- A statement on a new session leaves a new session on what is stored then, whatever it found. -/
theorem settle_begin (d : Database) (found : Except Failure (Bool × Database)) :
    ((begin d).settle found).2 = begin ((begin d).settle found).2.stored := by
  rcases found with f | ⟨_ | _, d'⟩ <;> rfl

/-- A call that does not spoil a new session leaves a new session on what is stored then. -/
theorem perform_of_not_spoils (h : ∀ f, ¬ Spoils t c f) :
    ((begin (.table t)).perform c).2 = begin ((Database.table t).performScoped c).stored := by
  show ((begin (.table t)).perform c).2 = begin ((begin (.table t)).perform c).2.stored
  cases c with
  | insert a =>
    cases hrow : Row.ofAlbum? a with
    | none => simp [perform, add, begin, hrow]
    | some r =>
      have hfits : fitsInt64 r.price = true := by
        by_contra hlarge
        exact h _ (.tooLarge hrow (Bool.eq_false_iff.2 hlarge))
      have hfree : t.find? r.id = none := by
        cases hfound : t.find? r.id with
        | none => rfl
        | some old => exact absurd (.taken hrow hfits hfound) (h _)
      simp [perform, add, begin, commit, flush, insertAll, Database.insertRow, Database.table?, hrow,
        hfits, hfree]
  | findAll offset limit =>
    rw [perform_findAll_session]
    rfl
  | findOne u =>
    rw [perform_findOne_session]
    rfl
  | update a =>
    cases hrow : Row.ofAlbum? a with
    | none => simp [perform, begin, hrow]
    | some r =>
      simp only [perform, hrow]
      exact settle_begin _ _
  | remove u => exact settle_begin _ _

/-- A spoiled session refuses every call, and stays as spoiled and as stored as it is. -/
theorem perform_of_broken {s : Session} (h : s.broken = some f) (c : Call) :
    (s.perform c).1 = .error (refusal f c) ∧ (s.perform c).2.stored = s.stored ∧
      (s.perform c).2.broken = some f := by
  have hstatement {α : Type} (run : Database → Except Failure α) :
      s.statement run = .error (.pendingRollback f) := by
    unfold statement
    rw [h]
  cases c with
  | insert a =>
    cases hrow : Row.ofAlbum? a with
    | none => simp [perform, add, refusal, hrow, h]
    | some r => simp [perform, add, commit, refusal, hrow, h]
  | findAll offset limit => simp [perform, hstatement, refusal, h]
  | findOne u => simp [perform, hstatement, refusal, h]
  | update a =>
    cases hrow : Row.ofAlbum? a with
    | none => simp [perform, refusal, hrow, h]
    | some r => simp [perform, settle, hstatement, refusal, hrow, h]
  | remove u => simp [perform, settle, hstatement, refusal, h]

/-! ## Sequences of calls -/

/-- The outcomes of storage calls on one session. -/
def answers (s : Session) : List Call → List Answered
  | [] => []
  | c :: cs => ⟨c, (s.perform c).1⟩ :: (s.perform c).2.answers cs

/-- The session after storage calls. -/
def after (s : Session) : List Call → Session
  | [] => s
  | c :: cs => (s.perform c).2.after cs

theorem after_append (s : Session) (cs ds : List Call) :
    s.after (cs ++ ds) = (s.after cs).after ds := by
  induction cs generalizing s with
  | nil => rfl
  | cons c cs ih => exact ih (s.perform c).2

theorem answers_append (s : Session) (cs ds : List Call) :
    s.answers (cs ++ ds) = s.answers cs ++ (s.after cs).answers ds := by
  induction cs generalizing s with
  | nil => rfl
  | cons c cs ih => exact congrArg (_ :: ·) (ih (s.perform c).2)

/-- A spoiled session stays so. -/
theorem after_of_broken {s : Session} (h : s.broken = some f) (cs : List Call) :
    (s.after cs).stored = s.stored ∧ (s.after cs).broken = some f := by
  induction cs generalizing s with
  | nil => exact ⟨rfl, h⟩
  | cons c cs ih =>
    obtain ⟨-, hstored, hbroken⟩ := perform_of_broken h c
    obtain ⟨hafter, hlast⟩ := ih hbroken
    exact ⟨hafter.trans hstored, hlast⟩

end Session

namespace Database

theorem after_append (d : Database) (cs ds : List Call) :
    d.after (cs ++ ds) = (d.after cs).after ds := by
  induction cs generalizing d with
  | nil => rfl
  | cons c cs ih => exact ih (d.performScoped c).stored

theorem answers_append (d : Database) (cs ds : List Call) :
    d.answers (cs ++ ds) = d.answers cs ++ (d.after cs).answers ds := by
  induction cs generalizing d with
  | nil => rfl
  | cons c cs ih => exact congrArg (_ :: ·) (ih (d.performScoped c).stored)

end Database

/-- A call and its outcome as it leaves a scope: a failure of the database layer is converted, and
anything else stays as it is. -/
def Answered.closed (x : Answered) : Answered := ⟨x.call, (close x.outcome).1⟩

/-- After each of the calls so far, one session for all of them has come to the same outcomes and to
the same rows as a scope for each. -/
def Agree (t : Table) (cs : List Call) : Prop :=
  ∀ done, done <+: cs →
    ((Session.begin (.table t)).answers done).map Answered.closed = (Database.table t).answers done ∧
      ((Session.begin (.table t)).after done).stored = (Database.table t).after done

/-- No call spoils a session on what the calls before it have stored. -/
def Intact (t : Table) (cs : List Call) : Prop :=
  ∀ before c later t₁ f, cs = before ++ c :: later → (Database.table t).after before = .table t₁ →
    ¬ Spoils t₁ c f

section Intact

variable {t t' : Table} {c : Call} {cs : List Call}

theorem intact_nil (t : Table) : Intact t [] := by
  intro before c later t₁ f h
  cases before <;> cases h

theorem intact_cons_iff (hstored : ((Database.table t).performScoped c).stored = .table t') :
    Intact t (c :: cs) ↔ (∀ f, ¬ Spoils t c f) ∧ Intact t' cs := by
  constructor
  · intro h
    refine ⟨fun f => h [] c cs t f rfl rfl, fun before d later t₁ f hsplit hafter => ?_⟩
    refine h (c :: before) d later t₁ f (congrArg (c :: ·) hsplit) ?_
    unfold Database.after
    rwa [hstored]
  · rintro ⟨hc, hcs⟩ before d later t₁ f hsplit hafter
    cases before with
    | nil =>
      cases hsplit
      cases hafter
      exact hc f
    | cons b before =>
      cases hsplit
      unfold Database.after at hafter
      rw [hstored] at hafter
      exact hcs before d later t₁ f rfl hafter

theorem Intact.of_append {ds : List Call} (h : Intact t (cs ++ ds)) : Intact t cs := by
  intro before c later t₁ f hsplit
  refine h before c (later ++ ds) t₁ f ?_
  rw [hsplit, List.append_assoc]
  rfl

/-- As long as no call spoils it, a session is as good as new, with the outcomes of scopes. -/
theorem run_of_intact (h : Intact t cs) :
    ((Session.begin (.table t)).answers cs).map Answered.closed = (Database.table t).answers cs ∧
      (Session.begin (.table t)).after cs = .begin ((Database.table t).after cs) := by
  induction cs generalizing t with
  | nil => exact ⟨rfl, rfl⟩
  | cons c cs ih =>
    obtain ⟨t', hstored, -⟩ := follows t c
    obtain ⟨hc, hcs⟩ := (intact_cons_iff hstored).1 h
    obtain ⟨hanswers, hafter⟩ := ih hcs
    have hsession := Session.perform_of_not_spoils hc
    unfold Session.answers Session.after Database.answers Database.after
    rw [hsession, hstored]
    exact ⟨congrArg (_ :: ·) hanswers, hafter⟩

theorem agree_of_intact (h : Intact t cs) : Agree t cs := by
  rintro done ⟨rest, rfl⟩
  obtain ⟨hanswers, hafter⟩ := run_of_intact h.of_append
  exact ⟨hanswers, congrArg Session.stored hafter⟩

/-- Either no call spoils a session, or there is a first one that does. -/
theorem intact_or_spoils (t : Table) (cs : List Call) :
    Intact t cs ∨ ∃ before c later f t₁, cs = before ++ c :: later ∧ Intact t before ∧
      (Database.table t).after before = .table t₁ ∧ Spoils t₁ c f := by
  induction cs generalizing t with
  | nil => exact .inl (intact_nil t)
  | cons c cs ih =>
    by_cases hspoils : ∃ f, Spoils t c f
    · obtain ⟨f, hf⟩ := hspoils
      exact .inr ⟨[], c, cs, f, t, rfl, intact_nil t, rfl, hf⟩
    · obtain ⟨t', hstored, -⟩ := follows t c
      have hc := not_exists.1 hspoils
      rcases ih t' with hcs | ⟨before, d, later, f, t₁, rfl, hbefore, hafter, hd⟩
      · exact .inl ((intact_cons_iff hstored).2 ⟨hc, hcs⟩)
      · refine .inr ⟨c :: before, d, later, f, t₁, rfl, (intact_cons_iff hstored).2 ⟨hc, hbefore⟩,
          ?_, hd⟩
        unfold Database.after
        rwa [hstored]

end Intact

/-! ## The first insertion that spoils a session -/

section Spoiled

variable {t t₁ : Table} {before : List Call} {c : Call} {f : Failure}

/-- One more call agrees, whether or not it spoils the session. -/
theorem agree_concat (hbefore : Intact t before) (c : Call) : Agree t (before ++ [c]) := by
  intro done hdone
  rcases List.prefix_concat_iff.1 hdone with rfl | hdone
  · obtain ⟨hanswers, hsession⟩ := run_of_intact hbefore
    rw [Session.answers_append, List.map_append, hanswers, Database.answers_append,
      Session.after_append, Database.after_append, hsession]
    exact ⟨rfl, rfl⟩
  · exact agree_of_intact hbefore done hdone

/-- A session that has been spoiled refuses every later call and stores nothing, and is as good as
new once it is rolled back. -/
theorem refused_of_spoils (hbefore : Intact t before)
    (hafter : (Database.table t).after before = .table t₁) (hc : Spoils t₁ c f) (more : List Call) :
    let s := (Session.begin (.table t)).after (before ++ c :: more)
    s.stored = .table t₁ ∧ s.rollback = .begin (.table t₁) ∧
      ∀ next, (s.perform next).1 = .error (refusal f next) := by
  intro s
  have hs : s = (((Session.begin (.table t₁)).perform c).2).after more := by
    rw [← hafter, ← (run_of_intact hbefore).2]
    exact Session.after_append _ before (c :: more)
  rw [Session.perform_of_spoils hc] at hs
  obtain ⟨hstored, hbroken⟩ :=
    Session.after_of_broken (s := ⟨.table t₁, .table t₁, [], some f⟩) rfl more
  rw [← hs] at hstored hbroken
  exact ⟨hstored, congrArg Session.begin hstored,
    fun next => (Session.perform_of_broken hbroken next).1⟩

end Spoiled

/-- **A shared session is as good as a new one for each call until an insertion fails as it is
written.** Over every table, the outcomes and the rows of a sequence of storage calls on one session
are those of calls in scopes of their own, if no insertion fails as its row is written. If one does,
they are so up to and including the first such insertion; from then on the session refuses every
call and the rows stay as they are, until it is rolled back, after which it is a new session. -/
theorem shared_session_agrees (t : Table) (cs : List Call) :
    (Intact t cs ∧ Agree t cs) ∨
      ∃ before c later f t₁, cs = before ++ c :: later ∧ Intact t before ∧
        (Database.table t).after before = .table t₁ ∧ Spoils t₁ c f ∧ Agree t (before ++ [c]) ∧
        ∀ more, let s := (Session.begin (.table t)).after (before ++ c :: more)
          s.stored = .table t₁ ∧ s.rollback = .begin (.table t₁) ∧
            ∀ next, (s.perform next).1 = .error (refusal f next) := by
  rcases intact_or_spoils t cs with h | ⟨before, c, later, f, t₁, hsplit, hbefore, hafter, hc⟩
  · exact .inl ⟨h, agree_of_intact h⟩
  · exact .inr ⟨before, c, later, f, t₁, hsplit, hbefore, hafter, hc,
      agree_concat hbefore c, refused_of_spoils hbefore hafter hc⟩

/-- Whether a call succeeded. -/
def Answered.succeeded (x : Answered) : Bool := x.outcome.isOk

/-- An album under the first of all ids. -/
def hejira : Album := ⟨default, "Hejira", "Joni", 2, .utc default, .utc default⟩

/-- An album that is added twice is found afterwards in a scope, but not on the session that failed
to add it again. -/
theorem added_twice_then_sought :
    let calls := [Call.insert hejira, .insert hejira, .findOne hejira.id]
    ((Database.table .empty).answers calls).map Answered.succeeded = [true, false, true] ∧
      ((Session.begin (.table .empty)).answers calls).map Answered.succeeded =
        [true, false, false] := by
  decide +kernel

end Discography.Store
