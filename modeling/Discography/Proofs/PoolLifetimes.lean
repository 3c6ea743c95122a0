import Mathlib.Data.List.Nodup
import Discography.Daemon.Lifespan
import Discography.Proofs.CallShapes
import Discography.Proofs.Runs

/-!
# How long pools live

Each lifespan that opens makes a manager of a pool of its own, and the manager is disposed of when
the lifespan ends. That is so if the lifespan finishes; an exception that is thrown into it leaves
it at once, so that its manager stays open until another lifespan replaces it, and is never disposed
of. A process is therefore told by the lifespans that have opened and by how they were left.

* `Plan.AsksNothing` — plans that end on their own; `asksNothing_respond` — without a database all
  requests have such plans.
* `take_cases` — all that an episode does to the pools of a process.
* `Accounts` — the pools of a process are those that its visits tell; `Accounts.after`: they stay so.
* `pools_follow_visits` — which managers are open and which have been disposed of, after any run.
-/

set_option autoImplicit false

namespace Discography.Api

open Discography.Log Discography.Store Discography.Http

/-! ## Requests without a database -/

variable {α β : Type}

/-- A plan that asks neither the clock nor the storage nor the database and draws no id. -/
inductive Plan.AsksNothing : Plan α → Prop
  | done (value : α) : AsksNothing (.done value)
  | report (event : Event) {next : Plan α} (h : AsksNothing next) : AsksNothing (.report event next)

theorem Plan.AsksNothing.reportAll {events : List Event} {p : Plan α} (h : p.AsksNothing) :
    (Plan.reportAll events p).AsksNothing := by
  induction events with
  | nil => exact h
  | cons event events ih => exact .report event ih

/-- Such a plan comes to the same wherever it is followed. -/
theorem Plan.AsksNothing.run {p : Plan α} (h : p.AsksNothing) :
    ∃ value events, ∀ (σ : Type) (b : Backend σ) (s : Supply) (w : World σ),
      p.run b s w = ⟨value, w, events, []⟩ := by
  induction h with
  | done value => exact ⟨value, [], fun σ b s w => rfl⟩
  | report event h ih =>
    obtain ⟨value, events, hrun⟩ := ih
    refine ⟨value, event :: events, fun σ b s w => ?_⟩
    rw [Plan.run, hrun]

theorem Plan.AsksNothing.bind {p : Plan α} {f : α → Plan β} (h : p.AsksNothing)
    (hf : ∀ value, (f value).AsksNothing) : (p.bind f).AsksNothing := by
  induction h with
  | done value => exact hf value
  | report event h ih => exact .report event ih

section Closed

variable {ctx : Context} {r : Except Failure α} {next : α → Plan (Except Failure β)}

theorem asksNothing_ifRead (h : ∀ x, (next x).AsksNothing) : (ifRead r next).AsksNothing := by
  cases r with
  | ok x => exact h x
  | error f => exact .done _

theorem asksNothing_ifOpen (hclosed : ctx.hasDatabase = false) (p : Plan (Except Failure α)) :
    (ctx.ifOpen p).AsksNothing := by
  unfold Context.ifOpen
  rw [hclosed]
  exact .done _

/-- An endpoint reads what it is given and then fails for want of a database. -/
theorem asksNothing_planOf (hclosed : ctx.hasDatabase = false) (e : Endpoint) :
    (planOf ctx e).AsksNothing := by
  cases e with
  | health => exact .done _
  | readiness =>
    show (readiness ctx).AsksNothing
    unfold readiness
    rw [hclosed]
    exact .done _
  | createAlbum body =>
    rw [planOf_createAlbum]
    exact asksNothing_ifRead fun d => asksNothing_ifOpen hclosed _
  | listAlbums query =>
    rw [planOf_listAlbums]
    exact asksNothing_ifOpen hclosed _
  | getAlbum raw =>
    rw [planOf_getAlbum]
    exact asksNothing_ifRead fun id => asksNothing_ifOpen hclosed _
  | updateAlbum raw body =>
    rw [planOf_updateAlbum]
    exact asksNothing_ifRead fun id => asksNothing_ifRead fun d => asksNothing_ifOpen hclosed _
  | deleteAlbum raw =>
    rw [planOf_deleteAlbum]
    exact asksNothing_ifRead fun id => asksNothing_ifOpen hclosed _

/-- **Without a database a request asks nothing of anybody.** -/
theorem asksNothing_respond (hclosed : ctx.hasDatabase = false) (r : Request) :
    (respond ctx r).AsksNothing := by
  by_cases h : ∃ e, find (routes r) r.method r.path = .endpoint e
  · obtain ⟨e, he⟩ := h
    rw [respond_of_find he]
    refine (asksNothing_planOf hclosed e).bind fun outcome => ?_
    cases outcome with
    | ok response => exact .done _
    | error f => exact .reportAll (.done _)
  · rw [respond_of_not_find ctx fun e he => h ⟨e, he⟩]
    exact .done _

end Closed

/-- A request is answered as where no database is open, whatever storage there would be. -/
def AnsweredClosed (r : Request) (response : Response) : Prop :=
  ∀ (σ : Type) (b : Backend σ) (s : Supply) (w : World σ),
    (serve b s ⟨false, Draft.problems⟩ r w).value = response ∧
      (serve b s ⟨false, Draft.problems⟩ r w).world = w

/-- What a request is answered in one place without a database it is answered in any other. -/
theorem answeredClosed_serve {σ : Type} (b : Backend σ) (s : Supply) (r : Request) (w : World σ) :
    AnsweredClosed r (serve b s ⟨false, Draft.problems⟩ r w).value := by
  have hrespond : (respond ⟨false, Draft.problems⟩ r).AsksNothing := asksNothing_respond rfl r
  obtain ⟨value, events, hrun⟩ := hrespond.run
  intro τ c t v
  unfold serve
  rw [hrun, hrun]
  exact ⟨rfl, rfl⟩

end Discography.Api

namespace Discography.Daemon

open Discography.Api Discography.Connect Discography.Http Discography.Log Discography.Migration
  Discography.Settings Discography.Store

/-! ## Lifespans in turn -/

/-- A lifespan: the sources of its settings, the requests that are served while it is open, and how
it is left once it has opened. -/
structure Lifespan where
  sources : Sources
  requests : List Request
  ending : Ending

/-- What happens to a service: a lifespan, or a request while no lifespan is open. -/
inductive Episode where
  | lifespan (l : Lifespan)
  | request (r : Request)

/-- A lifespan that has opened: the manager that was open in it, and how it was left. -/
structure Visit where
  manager : Manager
  ending : Ending
  deriving DecidableEq, Repr

/-- A process, with the readings of the clock and the ids that have been drawn. -/
structure Course where
  state : State
  readings : Nat := 0
  draws : Nat := 0

/-- The process after a request that was served. -/
def State.Served.course (served : State.Served) : Course :=
  ⟨served.state, served.readings, served.draws⟩

namespace Course

/-- A request served by a process. -/
def serve (supply : Supply) (q : Course) (r : Request) : State.Served :=
  q.state.serve supply q.readings q.draws r

/-- The process after requests that are served in turn. -/
def serveAll (supply : Supply) (q : Course) (rs : List Request) : Course :=
  rs.foldl (fun q r => (q.serve supply r).course) q

/-- A lifespan from its start to its end. If the start fails, the lifespan does not open. -/
def enter (supply : Supply) (q : Course) (l : Lifespan) : Option Visit × Course :=
  let started := q.state.start l.sources
  let opened : Course := { q with state := started.state }
  match started.outcome with
  | .error _ => (none, opened)
  | .ok _ =>
    let last := opened.serveAll supply l.requests
    (started.state.manager.map fun m => ⟨m, l.ending⟩,
      { last with state := (last.state.stop l.ending).1 })

/-- An episode of a process, with the visit that it was, if it was a lifespan that opened. -/
def take (supply : Supply) (q : Course) : Episode → Option Visit × Course
  | .lifespan l => q.enter supply l
  | .request r => (none, (q.serve supply r).course)

/-- The lifespans that open while episodes follow each other. -/
def visits (supply : Supply) (q : Course) : List Episode → List Visit
  | [] => []
  | e :: es => (q.take supply e).1.toList ++ (q.take supply e).2.visits supply es

/-- The process after episodes. -/
def after (supply : Supply) (q : Course) : List Episode → Course
  | [] => q
  | e :: es => (q.take supply e).2.after supply es

end Course

/-! ## What an episode does to pools -/

/-- What a process holds of pools. -/
structure Pools where
  manager : Option Manager
  made : Nat
  disposed : List Nat
  deriving DecidableEq, Repr

/-- What a process holds of pools. -/
def State.pools (p : State) : Pools := ⟨p.manager, p.made, p.disposed⟩

/-- The pools after a start that has made a manager of an engine. -/
def Pools.opened (x : Pools) (e : Engine) : Pools := ⟨some ⟨x.made, e⟩, x.made + 1, x.disposed⟩

/-- The pools after a lifespan has opened and been left. -/
def Pools.after (x : Pools) : Visit → Pools
  | ⟨m, .finished⟩ => ⟨none, x.made + 1, x.disposed ++ [m.number]⟩
  | ⟨m, .interrupted⟩ => ⟨some m, x.made + 1, x.disposed⟩

namespace State

theorem pools_settings (p : State) (s : Sources) : (p.settings s).2.pools = p.pools := by
  unfold settings
  split <;> rfl

theorem pools_setUpLogging (p : State) (a : Settings) : (p.setUpLogging a).2.pools = p.pools := rfl

theorem pools_withAlbums (p : State) (d : Database) : (p.withAlbums d).pools = p.pools := by
  unfold withAlbums
  split
  · rfl
  · dsimp only
    split <;> rfl

/-- **A start opens a new manager or leaves the pools as they are.** -/
theorem start_cases (p : State) (s : Sources) :
    (∃ t, (p.start s).outcome = .error t ∧ (p.start s).state.pools = p.pools) ∨
      ∃ e, (p.start s).outcome = .ok e ∧
        (p.start s).state.pools = p.pools.opened e := by
  have hsettings := p.pools_settings s
  unfold start
  split
  · next t q hq =>
    rw [hq] at hsettings
    exact .inl ⟨t, rfl, hsettings⟩
  · next a q hq =>
    rw [hq] at hsettings
    have hlogging := (q.pools_setUpLogging a).trans hsettings
    split
    · next t q' hq' =>
      rw [hq'] at hlogging
      exact .inl ⟨t, rfl, hlogging⟩
    · next q' hq' =>
      rw [hq'] at hlogging
      split
      · next f _ => exact .inl ⟨.failure f, rfl, hlogging⟩
      · next e _ =>
        refine .inr ⟨e, rfl, ?_⟩
        simp only [pools, Pools.mk.injEq] at hlogging
        obtain ⟨-, hmade, hdisposed⟩ := hlogging
        simp only [withEngine, pools, Pools.opened, hmade, hdisposed]

/-- A lifespan that is left does to its manager what its ending says. -/
theorem pools_stop {p : State} {x : Pools} {e : Engine} (h : p.pools = x.opened e)
    (ending : Ending) : (p.stop ending).1.pools = x.after ⟨⟨x.made, e⟩, ending⟩ := by
  simp only [pools, Pools.opened, Pools.mk.injEq] at h
  obtain ⟨hmanager, hmade, hdisposed⟩ := h
  cases ending <;> simp [stop, closeManager, pools, Pools.after, hmanager, hmade, hdisposed]

end State

namespace Course

variable {supply : Supply}

theorem pools_serve (q : Course) (r : Request) :
    (q.serve supply r).course.state.pools = q.state.pools := State.pools_withAlbums _ _

theorem pools_serveAll (q : Course) (rs : List Request) :
    (q.serveAll supply rs).state.pools = q.state.pools := by
  induction rs generalizing q with
  | nil => rfl
  | cons r rs ih => exact (ih _).trans (q.pools_serve r)

/-- A lifespan whose start fails is over. -/
theorem enter_of_refused {q : Course} {l : Lifespan} {t : Trouble}
    (h : (q.state.start l.sources).outcome = .error t) :
    q.enter supply l = (none, { q with state := (q.state.start l.sources).state }) := by
  simp only [enter, h]

/-- A lifespan that opens is a visit with the manager that its start has made. -/
theorem enter_of_opened {q : Course} {l : Lifespan} {e : Engine} {x : Pools}
    (h : (q.state.start l.sources).outcome = .ok e)
    (hpools : (q.state.start l.sources).state.pools = x.opened e) :
    (q.enter supply l).1 = some ⟨⟨x.made, e⟩, l.ending⟩ ∧
      (q.enter supply l).2.state.pools = x.after ⟨⟨x.made, e⟩, l.ending⟩ := by
  have hlast : (serveAll supply { q with state := (q.state.start l.sources).state }
      l.requests).state.pools = x.opened e := (pools_serveAll _ _).trans hpools
  have hmanager : (q.state.start l.sources).state.manager = some ⟨x.made, e⟩ :=
    congrArg Pools.manager hpools
  constructor
  · simp only [enter, h, hmanager, Option.map_some]
  · simp only [enter, h]
    exact State.pools_stop hlast l.ending

/-- **All that an episode does to pools**: nothing, or what one visit does, in which a new manager
was open. -/
theorem take_cases (q : Course) (e : Episode) :
    ((q.take supply e).1 = none ∧ (q.take supply e).2.state.pools = q.state.pools) ∨
      ∃ v : Visit, (q.take supply e).1 = some v ∧ v.manager.number = q.state.made ∧
        (q.take supply e).2.state.pools = q.state.pools.after v := by
  cases e with
  | request r => exact .inl ⟨rfl, q.pools_serve r⟩
  | lifespan l =>
    show ((q.enter supply l).1 = none ∧ _) ∨ ∃ v : Visit, (q.enter supply l).1 = some v ∧ _
    rcases q.state.start_cases l.sources with ⟨t, hfails, hpools⟩ | ⟨e, hopens, hpools⟩
    · have henter : q.enter supply l = _ := enter_of_refused hfails
      refine .inl ⟨congrArg Prod.fst henter, ?_⟩
      rw [take, henter]
      exact hpools
    · obtain ⟨hvisit, hafter⟩ := enter_of_opened hopens hpools
      exact .inr ⟨_, hvisit, rfl, hafter⟩

end Course

/-! ## Pools are what visits tell -/

/-- The manager that visits have left open: that of the last one, if it was interrupted. -/
def leftOpen (past : List Visit) : Option Manager :=
  match past.getLast? with
  | some ⟨m, .interrupted⟩ => some m
  | _ => none

/-- The pools of a process are those that its visits tell: each visit had a manager of its own, those
of the visits that finished have been disposed of in turn, and the last one is open if it was
interrupted. -/
structure Accounts (x : Pools) (past : List Visit) : Prop where
  made : past.map (·.manager.number) = List.range x.made
  disposed : x.disposed = (past.filter (·.ending = .finished)).map (·.manager.number)
  manager : x.manager = leftOpen past

namespace Accounts

variable {x : Pools} {past : List Visit}

/-- One more visit, with a new manager. -/
theorem concat (h : Accounts x past) {v : Visit} (hv : v.manager.number = x.made) :
    Accounts (x.after v) (past ++ [v]) := by
  have hmade : (past ++ [v]).map (·.manager.number) = List.range (x.made + 1) := by
    rw [List.map_append, h.made, List.range_succ, List.map_singleton, hv]
  obtain ⟨m, ending⟩ := v
  cases ending with
  | finished => exact ⟨hmade, by simp [Pools.after, h.disposed], by simp [Pools.after, leftOpen]⟩
  | interrupted => exact ⟨hmade, by simp [Pools.after, h.disposed], by simp [Pools.after, leftOpen]⟩

/-- **After any episodes, pools are what the visits tell.** -/
theorem after {supply : Supply} {q : Course} (h : Accounts q.state.pools past)
    (episodes : List Episode) :
    Accounts (q.after supply episodes).state.pools (past ++ q.visits supply episodes) := by
  induction episodes generalizing q past with
  | nil => rwa [Course.visits, List.append_nil]
  | cons e es ih =>
    rw [Course.visits, Course.after, ← List.append_assoc]
    apply ih
    rcases q.take_cases e with ⟨hnone, hpools⟩ | ⟨v, hsome, hnumber, hpools⟩
    · rw [hnone, hpools, Option.toList_none, List.append_nil]
      exact h
    · rw [hsome, hpools, Option.toList_some]
      exact h.concat hnumber

/-- No two visits have one manager. -/
theorem nodup (h : Accounts x past) : (past.map (·.manager.number)).Nodup := by
  rw [h.made]
  exact List.nodup_range

/-- The manager of a visit is disposed of once if the visit finished, and never otherwise. -/
theorem count_disposed (h : Accounts x past) {v : Visit} (hv : v ∈ past) :
    x.disposed.count v.manager.number = if v.ending = .finished then 1 else 0 := by
  have hinj : ∀ w ∈ past, w.manager.number = v.manager.number → w = v :=
    fun w hw => List.inj_on_of_nodup_map h.nodup hw hv
  rw [h.disposed]
  split
  · next hfinished =>
    have hsub : ((past.filter (·.ending = .finished)).map (·.manager.number)).Nodup :=
      h.nodup.sublist ((List.filter_sublist).map _)
    apply List.count_eq_one_of_mem hsub
    exact List.mem_map_of_mem (List.mem_filter.2 ⟨hv, by simpa using hfinished⟩)
  · next hinterrupted =>
    apply List.count_eq_zero_of_not_mem
    intro hmem
    obtain ⟨w, hw, hnumber⟩ := List.mem_map.1 hmem
    obtain ⟨hw, hfinished⟩ := List.mem_filter.1 hw
    rw [hinj w hw hnumber] at hfinished
    exact hinterrupted (by simpa using hfinished)

end Accounts

/-- Each manager has been disposed of once exactly if every visit has finished. -/
theorem Accounts.disposed_once_iff {x : Pools} {past : List Visit} (h : Accounts x past) :
    (∀ n < x.made, x.disposed.count n = 1) ↔ ∀ v ∈ past, v.ending = .finished := by
  have hmem (n : Nat) : n < x.made ↔ ∃ v ∈ past, v.manager.number = n := by
    rw [← List.mem_range, ← h.made, List.mem_map]
  constructor
  · intro hall v hv
    have hcount := hall v.manager.number ((hmem _).2 ⟨v, hv, rfl⟩)
    rw [h.count_disposed hv] at hcount
    by_contra hinterrupted
    rw [if_neg hinterrupted] at hcount
    omega
  · intro hall n hn
    obtain ⟨v, hv, rfl⟩ := (hmem n).1 hn
    rw [h.count_disposed hv, if_pos (hall v hv)]

theorem leftOpen_of_finished {past : List Visit} (h : ∀ v ∈ past, v.ending = .finished) :
    leftOpen past = none := by
  unfold leftOpen
  split
  · next m hlast => exact absurd (h _ (List.mem_of_getLast? hlast)) (by simp)
  · rfl

/-- A process without a manager answers as where no database is open, and stays as it is. -/
theorem Course.serve_of_no_manager {supply : Supply} {q : Course} (h : q.state.manager = none)
    (r : Request) :
    AnsweredClosed r (q.serve supply r).response ∧ (q.serve supply r).course = q := by
  have hcontext : q.state.context = ⟨false, Draft.problems⟩ := by
    simp only [State.context, h, Option.isSome_none]
  have hclosed := answeredClosed_serve Backend.database supply r
    { store := q.state.database, readings := q.readings, draws := q.draws }
  obtain ⟨-, hworld⟩ := hclosed _ Backend.database supply
    { store := q.state.database, readings := q.readings, draws := q.draws }
  constructor
  · simp only [Course.serve, State.serve, hcontext]
    exact hclosed
  · simp only [Course.serve, State.serve, State.Served.course, hcontext, hworld, State.withAlbums, h]

/-- **Pools are told by how lifespans are left.** Whatever lifespans follow each other, with whatever
settings and requests, and whatever requests are served in between: every manager that was made was
that of one lifespan, and those of the lifespans that finished, and no others, have been disposed of,
once and in turn. So each has been disposed of exactly once if and only if no lifespan was
interrupted. A manager is open while no lifespan is exactly if the last lifespan that opened was
interrupted, and it is the manager of that one. Otherwise there is none, and a request is answered as
where no database is open and changes nothing. -/
theorem pools_follow_visits (supply : Supply) (cache : Cache) (root : Root) (workspace : Workspace)
    (episodes : List Episode) :
    let fresh : Course := { state := { cache, root, workspace } }
    let visits := fresh.visits supply episodes
    let q := fresh.after supply episodes
    visits.map (·.manager.number) = List.range q.state.made ∧
    q.state.disposed = (visits.filter (·.ending = .finished)).map (·.manager.number) ∧
    ((∀ n < q.state.made, q.state.disposed.count n = 1) ↔ ∀ v ∈ visits, v.ending = .finished) ∧
    q.state.manager = leftOpen visits ∧
    ((∀ v ∈ visits, v.ending = .finished) → q.state.manager = none) ∧
    (q.state.manager = none → ∀ r,
      AnsweredClosed r (q.serve supply r).response ∧ (q.serve supply r).course = q) := by
  intro fresh visits q
  have hfresh : Accounts fresh.state.pools [] := ⟨rfl, rfl, rfl⟩
  have haccounts : Accounts q.state.pools visits := hfresh.after episodes
  refine ⟨haccounts.made, haccounts.disposed, haccounts.disposed_once_iff, haccounts.manager, ?_, ?_⟩
  · intro hfinished
    exact haccounts.manager.trans (leftOpen_of_finished hfinished)
  · intro hnone r
    exact Course.serve_of_no_manager hnone r

/-- The request that asks whether the service is ready. -/
def readinessProbe : Request := ⟨"GET", "/health/ready", "", .empty⟩

/-- A lifespan with a catalog in a file. -/
def catalogLifespan (requests : List Request) (ending : Ending) : Episode :=
  .lifespan ⟨⟨[("dsn", .text "sqlite+aiosqlite:////srv/catalog.db")], [], []⟩, requests, ending⟩

/-- A process in which nothing has happened. -/
def freshCourse : Course := { state := { workspace := { directory := "/srv" } } }

/-- Two lifespans that finish, with requests within, before and after the first one. -/
def twoLifespans : List Episode :=
  [.request readinessProbe, catalogLifespan [readinessProbe] .finished, .request readinessProbe,
    catalogLifespan [] .finished]

theorem pools_follow_visits_twice :
    (∀ v ∈ freshCourse.visits standstill twoLifespans, v.ending = .finished) ∧
      (freshCourse.after standstill twoLifespans).state.made = 2 ∧
      (∀ n < 2, (freshCourse.after standstill twoLifespans).state.disposed.count n = 1) ∧
      (freshCourse.after standstill twoLifespans).state.manager = none ∧
      AnsweredClosed readinessProbe
        ((freshCourse.after standstill twoLifespans).serve standstill readinessProbe).response := by
  have hfinished : ∀ v ∈ freshCourse.visits standstill twoLifespans, v.ending = .finished := by
    decide +kernel
  have hmade : (freshCourse.after standstill twoLifespans).state.made = 2 := by decide +kernel
  obtain ⟨-, -, honce, -, hopen, hclosed⟩ :=
    pools_follow_visits standstill {} {} { directory := "/srv" } twoLifespans
  have hnone : (freshCourse.after standstill twoLifespans).state.manager = none := hopen hfinished
  refine ⟨hfinished, hmade, fun n hn => honce.2 hfinished n ?_, hnone,
    (hclosed hnone readinessProbe).1⟩
  calc n < 2 := hn
    _ = (freshCourse.after standstill twoLifespans).state.made := hmade.symm

/-- A lifespan that is interrupted leaves its manager open: the readiness probe is answered from it
while no lifespan is open. The next lifespan replaces it, and it is never disposed of. -/
theorem interrupted_lifespan_leaves_pool :
    let q := freshCourse.after standstill [catalogLifespan [] .interrupted]
    let later := q.after standstill [catalogLifespan [] .finished]
    q.state.manager.isSome = true ∧ q.state.made = 1 ∧ q.state.disposed = [] ∧
      (q.serve standstill readinessProbe).response.status = 200 ∧
      ¬ AnsweredClosed readinessProbe (q.serve standstill readinessProbe).response ∧
      later.state.made = 2 ∧ later.state.disposed = [1] := by
  intro q later
  have hstatus : (q.serve standstill readinessProbe).response.status = 200 := by decide +kernel
  have hclosed (response : Response) (h : AnsweredClosed readinessProbe response) :
      response.status = 503 := by
    obtain ⟨hvalue, -⟩ := h _ Backend.database standstill emptyCatalog
    rw [← hvalue]
    decide +kernel
  refine ⟨by decide +kernel, by decide +kernel, by decide +kernel, hstatus, fun h => ?_,
    by decide +kernel, by decide +kernel⟩
  exact absurd (hstatus.symm.trans (hclosed _ h)) (by decide)

end Discography.Daemon
