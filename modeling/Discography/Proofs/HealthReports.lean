import Discography.Proofs.ErrorReports

/-!
# Health checks report failures

A health check asks the database for an answer in a session scope of its own, and a failure passes
first the scope and then the check. The scope turns a failure of the database layer into a database
error and reports it, so the check takes database errors as reported and reports all others. One
that was a database error before it came to the scope passes both without a report.

* `Reports` — who reports a failure, and how; `health_error` — each failure is reported so.
* `Reports.unique` — no failure is reported in two ways.
* `serve_readiness` — the readiness probe answers and reports what the health check says.
* `health_reports_failures` — so that a failure is reported once, if it is no database error yet.
-/

set_option autoImplicit false

namespace Discography.Store

open Discography.Log

/-! ## One check -/

/-- The report of a health check on a failure that its scope has let through. -/
def checkFailed (f : Failure) : Event :=
  { level := .error, logger := databaseLogger, message := "database health check failed",
    extras := { error := some f.text } }

/-- Whether a failure is a database error of the catalog. -/
def IsDatabaseError (f : Failure) : Prop := ∃ detail operation, f = .database detail operation

/-- Who reports a failure within a health check, and what. -/
inductive Reports : Failure → List Event → Prop
  /-- The scope of the session reports a failure of the database layer. -/
  | byScope {f : Failure} (layer : f.isSql = true) : Reports f [failureEvent f]
  /-- The check reports what the scope lets through. -/
  | byCheck {f : Failure} (passed : f.isSql = false) (fresh : ¬ IsDatabaseError f) :
      Reports f [checkFailed f]
  /-- A database error counts as reported. -/
  | byNobody {f : Failure} (reported : IsDatabaseError f) : Reports f []

variable {f : Failure} {es es' : List Event}

theorem isSql_of_isDatabaseError (h : IsDatabaseError f) : f.isSql = false := by
  obtain ⟨detail, operation, rfl⟩ := h
  rfl

theorem health_of_layer (h : f.isSql = true) : health (.error f) = (false, [failureEvent f]) := by
  unfold health
  rw [close_error, if_pos h]

theorem health_of_passed (hpassed : f.isSql = false) (hfresh : ¬ IsDatabaseError f) :
    health (.error f) = (false, [checkFailed f]) := by
  cases f with
  | sql kind text => cases hpassed
  | database detail operation => exact absurd ⟨detail, operation, rfl⟩ hfresh
  | _ => rfl

theorem health_of_isDatabaseError (h : IsDatabaseError f) : health (.error f) = (false, []) := by
  obtain ⟨detail, operation, rfl⟩ := h
  rfl

/-- **A health check never fails**: it tells of each failure, and the one reports it who should. -/
theorem health_error (f : Failure) : ∃ es, health (.error f) = (false, es) ∧ Reports f es := by
  by_cases layer : f.isSql = true
  · exact ⟨_, health_of_layer layer, .byScope layer⟩
  · have passed : f.isSql = false := Bool.eq_false_iff.2 layer
    by_cases reported : IsDatabaseError f
    · exact ⟨_, health_of_isDatabaseError reported, .byNobody reported⟩
    · exact ⟨_, health_of_passed passed reported, .byCheck passed reported⟩

namespace Reports

/-- **No failure is reported in two ways.** -/
theorem unique (h : Reports f es) (h' : Reports f es') : es = es' := by
  cases h with
  | byScope layer =>
    cases h' with
    | byScope => rfl
    | byCheck passed => exact absurd (layer.symm.trans passed) (by decide)
    | byNobody reported =>
      exact absurd (layer.symm.trans (isSql_of_isDatabaseError reported)) (by decide)
  | byCheck passed fresh =>
    cases h' with
    | byScope layer => exact absurd (layer.symm.trans passed) (by decide)
    | byCheck => rfl
    | byNobody reported => exact absurd reported fresh
  | byNobody reported =>
    cases h' with
    | byScope layer =>
      exact absurd (layer.symm.trans (isSql_of_isDatabaseError reported)) (by decide)
    | byCheck passed fresh => exact absurd reported fresh
    | byNobody => rfl

/-- A failure that is no database error yet is reported by one error with its text. -/
theorem exists_of_fresh (h : Reports f es) (hfresh : ¬ IsDatabaseError f) :
    ∃ e, es = [e] ∧ e.level = .error ∧ e.logger = databaseLogger ∧
      e.extras.error = some f.text := by
  cases h with
  | byScope layer => exact ⟨_, rfl, rfl, rfl, rfl⟩
  | byCheck passed fresh => exact ⟨_, rfl, rfl, rfl, rfl⟩
  | byNobody reported => exact absurd reported hfresh

theorem eq_nil (h : Reports f es) (hreported : IsDatabaseError f) : es = [] :=
  h.unique (.byNobody hreported)

end Reports

/-- No database answers a connection with a database error of the catalog. -/
theorem not_isDatabaseError_of_connect {d : Database} (h : d.connect = .error f) :
    ¬ IsDatabaseError f := by
  rintro ⟨detail, operation, rfl⟩
  cases d with
  | table t => cases h
  | tableless => cases h
  | unopenable => cases h

end Discography.Store

namespace Discography.Api

open Discography.Log Discography.Store Discography.Http

/-! ## The readiness probe -/

variable {α σ : Type} {b : Backend σ} {s : Supply} {ctx : Context} {r : Request} {w : World σ}

theorem find_readiness (h : AsksReadiness r) :
    find (routes r) r.method r.path = .endpoint .readiness := by
  obtain ⟨hmethod, hpath⟩ := h
  rw [hmethod]
  rcases hpath with hpath | hpath
  · rw [hpath]
    rfl
  · rw [hpath]
    rfl

/-- **The readiness probe answers and reports what the health check says**, and that is all. -/
theorem serve_readiness (h : AsksReadiness r) (hopen : ctx.hasDatabase = true) :
    serve b s ctx r w =
      ⟨if (health (b.ping w.store)).1 then ready else notReady, w,
        (health (b.ping w.store)).2, []⟩ := by
  have hplan : planOf ctx .readiness = .ping fun answer => .reportAll (health answer).2
      (.done (.ok (if (health answer).1 then ready else notReady))) := if_pos hopen
  unfold serve
  rw [respond_of_find (find_readiness h), Plan.run_bind, hplan]
  simp only [Plan.run, Plan.run_reportAll, replying, List.append_nil]

/-- The readiness probe in one of its two ways. -/
theorem readiness_cases (h : AsksReadiness r) (hopen : ctx.hasDatabase = true) :
    (b.ping w.store = .ok () ∧ (serve b s ctx r w).value = ready ∧
        (serve b s ctx r w).events = []) ∨
      ∃ f, b.ping w.store = .error f ∧ (serve b s ctx r w).value = notReady ∧
        Reports f (serve b s ctx r w).events := by
  rw [serve_readiness h hopen]
  cases hping : b.ping w.store with
  | ok u => exact .inl ⟨rfl, rfl, rfl⟩
  | error f =>
    obtain ⟨es, hhealth, hreports⟩ := health_error f
    refine .inr ⟨f, rfl, ?_, ?_⟩
    · rw [hhealth]
      rfl
    · rw [hhealth]
      exact hreports

/-- The readiness probe says that the service is ready and nothing is reported, or that it is not
and one error is. -/
def TellsHealth (o : Outcome σ Response) : Prop :=
  (o.value.status = 200 ∧ o.events = []) ∨
    (o.value.status = 503 ∧ ∃ e, o.events = [e] ∧ e.level = .error)

/-- The readiness probe tells the health of a backend that does not fail with database errors. -/
theorem tellsHealth_serve (h : AsksReadiness r) (hopen : ctx.hasDatabase = true)
    (hping : ∀ f, b.ping w.store = .error f → ¬ IsDatabaseError f) :
    TellsHealth (serve b s ctx r w) := by
  rcases readiness_cases (b := b) (s := s) (w := w) h hopen with
    ⟨-, hvalue, hevents⟩ | ⟨f, hf, hvalue, hreports⟩
  · refine .inl ⟨?_, hevents⟩
    rw [hvalue]
    rfl
  · obtain ⟨e, he, hlevel, -, -⟩ := hreports.exists_of_fresh (hping f hf)
    refine .inr ⟨?_, e, he, hlevel⟩
    rw [hvalue]
    rfl

/-- **A health check never fails, and a failure is reported once.** Nothing is reported if nothing
fails. Any failure makes the check tell that the database does not answer; it is reported by one
error with its text, by the scope of the session if it comes from the database layer and by the
check otherwise, but for a database error of the catalog, and this alone, which is not reported at
all. So the readiness probe over an open database answers 200 and reports nothing, or answers 503
and reports one error, but for such a failure, with which no state of a database answers. -/
theorem health_reports_failures (f : Failure) (s : Supply) (ctx : Context) (r : Request)
    (hr : AsksReadiness r) (hopen : ctx.hasDatabase = true) :
    health (.ok ()) = (true, []) ∧
    (health (.error f)).1 = false ∧
    (errorCount (health (.error f)).2 = 1 ↔ ¬ IsDatabaseError f) ∧
    (¬ IsDatabaseError f → ∃ e, (health (.error f)).2 = [e] ∧
      e = (if f.isSql then failureEvent f else checkFailed f) ∧ e.level = .error ∧
      e.extras.error = some f.text) ∧
    (IsDatabaseError f → (health (.error f)).2 = []) ∧
    (∀ (σ : Type) (b : Backend σ) (w : World σ),
      (∀ g, b.ping w.store = .error g → ¬ IsDatabaseError g) → TellsHealth (serve b s ctx r w)) ∧
    ∀ w : World Database, TellsHealth (serve .database s ctx r w) := by
  obtain ⟨es, hhealth, hreports⟩ := health_error f
  rw [hhealth]
  refine ⟨rfl, rfl, ⟨?once, ?counted⟩, ?fresh, hreports.eq_nil, ?probe, ?database⟩
  case once =>
    intro hcount hreported
    rw [hreports.eq_nil hreported] at hcount
    cases hcount
  case counted =>
    intro hfresh
    obtain ⟨e, rfl, hlevel, -, -⟩ := hreports.exists_of_fresh hfresh
    simp [errorCount, hlevel]
  case fresh =>
    intro hfresh
    cases hreports with
    | byScope layer => exact ⟨_, rfl, (if_pos layer).symm, rfl, rfl⟩
    | byCheck passed fresh =>
      have hcheck : checkFailed f = if f.isSql then failureEvent f else checkFailed f := by
        rw [passed]
        rfl
      exact ⟨_, rfl, hcheck, rfl, rfl⟩
    | byNobody reported => exact absurd reported hfresh
  case probe =>
    intro σ b w hping
    exact tellsHealth_serve hr hopen hping
  case database =>
    intro w
    exact tellsHealth_serve hr hopen fun g => not_isDatabaseError_of_connect

/-- A connection that breaks down while a health check asks the database, and a database that cannot
be opened. -/
theorem health_reports_failures_unreachable :
    let f : Failure := .fault .connection "db down"
    let r : Request := ⟨"GET", "/health/ready", "", .empty⟩
    let b : Backend Unit := ⟨fun _ w => (.error f, w), fun _ => .error f⟩
    health (.error f) = (false, [checkFailed f]) ∧
      TellsHealth (serve b standstill catalog r ⟨(), 0, 0⟩) ∧
      TellsHealth (serve .database standstill catalog r ⟨.unopenable, 0, 0⟩) := by
  intro f r b
  have hfresh : ¬ IsDatabaseError f := by
    rintro ⟨detail, operation, h⟩
    simp [f] at h
  have hping : ∀ g, b.ping () = .error g → ¬ IsDatabaseError g := by
    rintro g ⟨⟩
    exact hfresh
  obtain ⟨-, hunhealthy, -, hreported, -, hbackend, hdatabase⟩ :=
    health_reports_failures f standstill catalog r ⟨rfl, .inl rfl⟩ rfl
  obtain ⟨e, hevents, rfl, -, -⟩ := hreported hfresh
  exact ⟨Prod.ext hunhealthy hevents, hbackend Unit b ⟨(), 0, 0⟩ hping, hdatabase _⟩

/-- A database error of the catalog that a health check meets is reported by nobody, and the
readiness probe over a backend that fails so answers 503 without a report. -/
theorem health_silent_on_database_error :
    let f : Failure := .database "d" "o"
    let r : Request := ⟨"GET", "/health/ready", "", .empty⟩
    let b : Backend Unit := ⟨fun _ w => (.error f, w), fun _ => .error f⟩
    health (.error f) = (false, []) ∧
      (serve b standstill catalog r ⟨(), 0, 0⟩).value.status = 503 ∧
      (serve b standstill catalog r ⟨(), 0, 0⟩).events = [] ∧
      ¬ ∀ f : Failure, errorCount (health (.error f)).2 = 1 := by
  intro f r b
  refine ⟨rfl, by decide +kernel, by decide +kernel, fun h => ?_⟩
  exact absurd (h f) (by decide)

end Discography.Api
