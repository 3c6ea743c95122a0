import Mathlib.Data.List.DropRight
import Discography.Settings.Cache

/-!
# What is remembered of settings

A process asks for its settings again and again; in between its sources change and its cache is
cleared. Its history tells what each question is answered by: the object that the first success
since the last clear has made, and a new one from the sources as they are if there was none. A
failure is answered and forgotten.

* `remembered?` — the object that a history says is remembered.
* `Tracks` — a process is what its history says; `Tracks.step`, `Tracks.after`: it stays so.
* `Answers` — what a question is answered by after a history.
* `answers_follow_history` — what every question of every run is answered by.
-/

set_option autoImplicit false

namespace Discography.Settings

/-! ## Processes and their histories -/

/-- A step of a process that uses its settings. -/
inductive CacheStep
  | clear
  | change (sources : Sources)
  | ask

/-- A step that was taken, and what it was answered by. -/
inductive CacheEvent
  | cleared
  | changed (sources : Sources)
  | answered (answer : Except (List Complaint) Held)

namespace CacheEvent

/-- The step that was taken. -/
def step : CacheEvent → CacheStep
  | cleared => .clear
  | changed s => .change s
  | answered _ => .ask

/-- The object that a question was answered by. -/
def held? : CacheEvent → Option Held
  | answered (.ok h) => some h
  | _ => none

/-- The sources that there are from now on, if they were changed. -/
def sources? : CacheEvent → Option Sources
  | changed s => some s
  | _ => none

/-- Whether the cache was cleared. -/
def isCleared : CacheEvent → Bool
  | cleared => true
  | _ => false

end CacheEvent

/-- A cache, and the sources as they are. -/
structure Process where
  cache : Cache := {}
  sources : Sources

namespace Process

/-- A step of a process. -/
def take (p : Process) : CacheStep → CacheEvent × Process
  | .clear => (.cleared, { p with cache := p.cache.clear })
  | .change s => (.changed s, { p with sources := s })
  | .ask =>
    let (answer, cache) := p.cache.get p.sources
    (.answered answer, { p with cache })

/-- The history of steps that are taken in turn. -/
def history (p : Process) : List CacheStep → List CacheEvent
  | [] => []
  | s :: ss => (p.take s).1 :: (p.take s).2.history ss

/-- The process after steps that are taken in turn. -/
def after (p : Process) : List CacheStep → Process
  | [] => p
  | s :: ss => (p.take s).2.after ss

theorem step_take (p : Process) (s : CacheStep) : (p.take s).1.step = s := by
  cases s <;> rfl

/-- A history has one event for each step. -/
theorem map_step_history (p : Process) (ss : List CacheStep) :
    (p.history ss).map CacheEvent.step = ss := by
  induction ss generalizing p with
  | nil => rfl
  | cons s ss ih => rw [history, List.map_cons, step_take, ih]

/-- An event of a history is that of a step, taken after the ones before it. -/
theorem exists_of_history_eq {p : Process} {ss : List CacheStep} {past future : List CacheEvent}
    {e : CacheEvent} (h : p.history ss = past ++ e :: future) :
    ∃ before s, past = p.history before ∧ e = ((p.after before).take s).1 := by
  induction past generalizing p ss with
  | nil =>
    cases ss with
    | nil => cases h
    | cons s ss => exact ⟨[], s, rfl, (List.cons.inj h).1.symm⟩
  | cons d past ih =>
    cases ss with
    | nil => cases h
    | cons s ss =>
      obtain ⟨rfl, hrest⟩ := List.cons.inj h
      obtain ⟨before, t, rfl, rfl⟩ := ih hrest
      exact ⟨s :: before, t, rfl, rfl⟩

end Process

/-! ## What a history says -/

/-- The events of a history since the cache was last cleared. -/
def sinceClear (past : List CacheEvent) : List CacheEvent := past.rtakeWhile fun e => !e.isCleared

/-- The object that is remembered after a history: the first that was given since the cache was last
cleared. -/
def remembered? (past : List CacheEvent) : Option Held :=
  (sinceClear past).findSome? CacheEvent.held?

/-- The sources after a history that began with some: those of the last change. -/
def sourcesAfter (start : Sources) (past : List CacheEvent) : Sources :=
  (past.reverse.findSome? CacheEvent.sources?).getD start

section Concat

variable {past : List CacheEvent} {e : CacheEvent}

theorem sinceClear_concat (h : e.isCleared = false) :
    sinceClear (past ++ [e]) = sinceClear past ++ [e] := by
  unfold sinceClear
  rw [List.rtakeWhile_concat_pos _ _ _ (by rw [h]; rfl)]

theorem remembered?_cleared : remembered? (past ++ [.cleared]) = none := by
  have hsince : sinceClear (past ++ [.cleared]) = [] :=
    List.rtakeWhile_concat_neg _ _ _ (by decide)
  unfold remembered?
  rw [hsince]
  rfl

/-- Unless the cache is cleared, what is remembered stays, and what is given is remembered if
nothing was. -/
theorem remembered?_concat (h : e.isCleared = false) :
    remembered? (past ++ [e]) = (remembered? past).or e.held? := by
  unfold remembered?
  rw [sinceClear_concat h, List.findSome?_append, List.findSome?_singleton]

theorem sourcesAfter_changed {start s : Sources} :
    sourcesAfter start (past ++ [.changed s]) = s := by
  unfold sourcesAfter
  rw [List.reverse_append]
  rfl

theorem sourcesAfter_concat {start : Sources} (h : e.sources? = none) :
    sourcesAfter start (past ++ [e]) = sourcesAfter start past := by
  unfold sourcesAfter
  rw [List.reverse_append, List.reverse_singleton, List.singleton_append, List.findSome?_cons, h]

end Concat

/-! ## Processes are what their histories say -/

/-- A process that is what its history says: its cache holds the object that is remembered, and no
object has been given that was not made. -/
structure Tracks (start : Sources) (p : Process) (past : List CacheEvent) : Prop where
  held : p.cache.held = remembered? past
  sources : p.sources = sourcesAfter start past
  made : ∀ e ∈ past, ∀ h, e.held? = some h → h.number < p.cache.made

/-- What a question is answered by after a history, with the sources as they are. -/
inductive Answers (past : List CacheEvent) (s : Sources) : Except (List Complaint) Held → Prop
  /-- The object that is remembered. -/
  | kept {h : Held} (remembered : remembered? past = some h) : Answers past s (.ok h)
  /-- The settings of the sources, as an object that was never given before. -/
  | made {a : Settings} {number : Nat} (forgotten : remembered? past = none)
      (resolved : resolve s = .ok a)
      (unused : ∀ e ∈ past, ∀ h, e.held? = some h → h.number ≠ number) :
      Answers past s (.ok ⟨number, a⟩)
  /-- The complaints about the sources. -/
  | failed {complaints : List Complaint} (forgotten : remembered? past = none)
      (refused : resolve s = .error complaints) : Answers past s (.error complaints)

variable {start : Sources} {p : Process} {past : List CacheEvent}

theorem tracks_start : Tracks start { sources := start } [] := ⟨rfl, rfl, nofun⟩

namespace Tracks

/-- What was made stays made. -/
theorem made_concat (ht : Tracks start p past) {e : CacheEvent} {made : Nat}
    (hpast : p.cache.made ≤ made) (he : ∀ h, e.held? = some h → h.number < made) :
    ∀ d ∈ past ++ [e], ∀ h, d.held? = some h → h.number < made := by
  intro d hd h hh
  rcases List.mem_append.1 hd with hd | hd
  · exact Nat.lt_of_lt_of_le (ht.made d hd h hh) hpast
  · rw [List.mem_singleton.1 hd] at hh
    exact he h hh

/-- A process that clears its cache, or whose sources change, stays what its history says. -/
theorem clear (ht : Tracks start p past) :
    Tracks start (p.take .clear).2 (past ++ [.cleared]) where
  held := remembered?_cleared.symm
  sources := ht.sources.trans (sourcesAfter_concat rfl).symm
  made := ht.made_concat (Nat.le_refl _) nofun

theorem change (ht : Tracks start p past) (s : Sources) :
    Tracks start (p.take (.change s)).2 (past ++ [.changed s]) where
  held := by
    rw [remembered?_concat rfl]
    exact ht.held.trans (Option.or_none).symm
  sources := sourcesAfter_changed.symm
  made := ht.made_concat (Nat.le_refl _) nofun

/-- A question is answered by what the history says, and the process stays what it says. -/
theorem ask (ht : Tracks start p past) :
    ∃ x, (p.take .ask).1 = .answered x ∧ Answers past (sourcesAfter start past) x ∧
      Tracks start (p.take .ask).2 (past ++ [.answered x]) := by
  have hsources (x : Except (List Complaint) Held) :
      p.sources = sourcesAfter start (past ++ [.answered x]) :=
    ht.sources.trans (sourcesAfter_concat rfl).symm
  have hnext (x : Except (List Complaint) Held) :
      remembered? (past ++ [.answered x]) = p.cache.held.or (CacheEvent.answered x).held? := by
    rw [remembered?_concat rfl, ht.held]
  cases hheld : p.cache.held with
  | some h =>
    have hremembered : remembered? past = some h := ht.held.symm.trans hheld
    have hget : p.cache.get p.sources = (.ok h, p.cache) := Cache.get_filled p.sources hheld
    refine ⟨.ok h, by rw [Process.take, hget], .kept hremembered, ?_⟩
    rw [Process.take, hget]
    refine ⟨?_, hsources _, ht.made_concat (Nat.le_refl _) ?_⟩
    · rw [hnext, hheld]
      rfl
    · rintro k ⟨⟩
      obtain ⟨e, he, hh⟩ := List.exists_of_findSome?_eq_some hremembered
      exact ht.made e ((List.rtakeWhile_suffix _ _).subset he) h hh
  | none =>
    have hforgotten : remembered? past = none := ht.held.symm.trans hheld
    cases hresolve : resolve p.sources with
    | ok a =>
      have hget : p.cache.get p.sources =
          (.ok ⟨p.cache.made, a⟩, ⟨some ⟨p.cache.made, a⟩, p.cache.made + 1⟩) := by
        simp only [Cache.get, hheld, hresolve]
      have hunused : ∀ e ∈ past, ∀ h, e.held? = some h → h.number ≠ p.cache.made :=
        fun e he h hh => Nat.ne_of_lt (ht.made e he h hh)
      refine ⟨.ok ⟨p.cache.made, a⟩, by rw [Process.take, hget],
        .made hforgotten (by rw [← ht.sources, hresolve]) hunused, ?_⟩
      rw [Process.take, hget]
      refine ⟨?_, hsources _, ht.made_concat (Nat.le_succ _) ?_⟩
      · rw [hnext, hheld]
        rfl
      · rintro k ⟨⟩
        exact Nat.lt_succ_self _
    | error complaints =>
      have hget : p.cache.get p.sources = (.error complaints, p.cache) := by
        simp only [Cache.get, hheld, hresolve]
      refine ⟨.error complaints, by rw [Process.take, hget],
        .failed hforgotten (by rw [← ht.sources, hresolve]), ?_⟩
      rw [Process.take, hget]
      refine ⟨?_, hsources _, ht.made_concat (Nat.le_refl _) ?_⟩
      · rw [hnext, hheld]
        rfl
      · rintro k ⟨⟩

/-- **Every step leaves a process what its history says.** -/
theorem step (ht : Tracks start p past) (s : CacheStep) :
    Tracks start (p.take s).2 (past ++ [(p.take s).1]) := by
  cases s with
  | clear => exact ht.clear
  | change s => exact ht.change s
  | ask =>
    obtain ⟨x, hx, -, hnext⟩ := ht.ask
    rw [hx]
    exact hnext

/-- After a run, a process is what its history says. -/
theorem after (ht : Tracks start p past) (ss : List CacheStep) :
    Tracks start (p.after ss) (past ++ p.history ss) := by
  induction ss generalizing p past with
  | nil => rwa [Process.history, List.append_nil]
  | cons s ss ih =>
    have hrest := ih (ht.step s)
    rwa [List.append_assoc] at hrest

end Tracks

/-- **Successes are remembered and failures are not.** After any steps of a process that begins with
an empty cache, the cache holds the first object that was given since it was last cleared, and
nothing if there is none, whatever failed in between. Every question is answered by that object,
whatever the sources have become; if there is none, by the settings of the sources as they are, in
an object that was never given before, or by the complaints about them. -/
theorem answers_follow_history (start : Sources) (steps : List CacheStep) :
    let p : Process := { sources := start }
    let history := p.history steps
    history.map CacheEvent.step = steps ∧
    (p.after steps).cache.held = remembered? history ∧
    ∀ past x future, history = past ++ .answered x :: future →
      Answers past (sourcesAfter start past) x := by
  intro p history
  refine ⟨p.map_step_history steps, (tracks_start.after steps).held, ?_⟩
  intro past x future hhistory
  obtain ⟨before, s, rfl, he⟩ := Process.exists_of_history_eq hhistory
  have hs : s = .ask := by
    rw [← (p.after before).step_take s, ← he]
    rfl
  subst hs
  obtain ⟨y, hy, hanswers, -⟩ := (tracks_start.after before).ask
  obtain rfl : x = y := CacheEvent.answered.inj (he.trans hy)
  exact hanswers

/-- A question that fails for want of an address, one under repaired sources, and one after the
sources have changed again, which is answered by the object of the second. -/
theorem answers_follow_history_repaired :
    let good : Sources := ⟨[("dsn", .text "sqlite://")], [], []⟩
    let later : Sources := ⟨[("dsn", .text "later")], [], []⟩
    let a : Settings :=
      ⟨"0.0.0.0", 8080, 10, "sqlite://", 20, 10, false, "alembic.ini", "INFO", "json"⟩
    let past : List CacheEvent :=
      [.answered (.error [⟨"dsn", .missing⟩]), .changed good, .answered (.ok ⟨0, a⟩),
        .changed later]
    Process.history { sources := ⟨[], [], []⟩ }
        [.ask, .change good, .ask, .change later, .ask] = past ++ [.answered (.ok ⟨0, a⟩)] ∧
      remembered? past = some ⟨0, a⟩ ∧ Answers past later (.ok ⟨0, a⟩) := by
  intro good later a past
  have hhistory : Process.history { sources := ⟨[], [], []⟩ }
      [.ask, .change good, .ask, .change later, .ask] = past ++ [.answered (.ok ⟨0, a⟩)] := by
    have hmissing : resolve ⟨[], [], []⟩ = .error [⟨"dsn", .missing⟩] := rfl
    have hgood : resolve good = .ok a := ok_of_toOption (by decide +kernel)
    simp only [Process.history, Process.take, Cache.get, hmissing, hgood]
    rfl
  exact ⟨hhistory, rfl, (answers_follow_history _ _).2.2 past _ [] hhistory⟩

end Discography.Settings
