import Discography.Album.Basic
import Discography.Proofs.DayCount

/-!
# Stamps and instants

A stamp shows a date and a time of day, and the calendar and the clock tell at which moment that is.
Its offset less, this is the instant that the stamp denotes. Taking a stamp to UTC shows the same
instant on the calendar and the clock of UTC, if the year is one of those that stamps have.

* `Reading` — what calendar and clock show; `Reading.At` — the moment at which they show it.
* `At.lt_iff` — the order of moments is the order of the fields; `exists_at`, `At.unique` — at every
  moment they show one reading.
* `shows_iff_at` — a wall time shows what calendar and clock show after so many microseconds.
* `Stamp.Denotes` — the instant of a stamp with an offset.
* `atUtc_keeps_instant` — taking a stamp to UTC keeps the instant, or fails outside the calendar.
-/

set_option autoImplicit false

namespace Discography.Calendar

/-! ## Readings -/

/-- What a calendar and a clock show. -/
structure Reading where
  day : Day
  hour : Nat
  minute : Nat
  second : Nat
  micro : Nat
  deriving DecidableEq, Repr

namespace Reading

/-- A time of day that a clock shows. -/
structure Timely (r : Reading) : Prop where
  hour : r.hour < 24
  minute : r.minute < 60
  second : r.second < 60
  micro : r.micro < 1000000

/-- The microseconds since midnight. -/
def clock (r : Reading) : Nat :=
  ((r.hour * 60 + r.minute) * 60 + r.second) * 1000000 + r.micro

/-- The moment at which a calendar and a clock show a reading, in microseconds since the first day
of year 1 began. -/
def At (r : Reading) (m : Int) : Prop :=
  r.Timely ∧ ∃ n, Counted n r.day ∧ m = n * dayMicros + r.clock

/-- Whether a reading comes before another one, by the date and then by the time of day. -/
def Before (r s : Reading) : Prop :=
  r.day.Before s.day ∨ r.day = s.day ∧ (r.hour < s.hour ∨ r.hour = s.hour ∧
    (r.minute < s.minute ∨ r.minute = s.minute ∧
      (r.second < s.second ∨ r.second = s.second ∧ r.micro < s.micro)))

variable {r s : Reading} {m n : Int}

theorem clock_lt (h : r.Timely) : r.clock < dayMicros := by
  obtain ⟨hhour, hminute, hsecond, hmicro⟩ := h
  unfold clock dayMicros
  omega

theorem clock_lt_iff (hr : r.Timely) (hs : s.Timely) :
    r.clock < s.clock ↔ r.hour < s.hour ∨ r.hour = s.hour ∧
      (r.minute < s.minute ∨ r.minute = s.minute ∧
        (r.second < s.second ∨ r.second = s.second ∧ r.micro < s.micro)) := by
  obtain ⟨hhour, hminute, hsecond, hmicro⟩ := hr
  obtain ⟨hhour', hminute', hsecond', hmicro'⟩ := hs
  unfold clock
  omega

/-- On one day, the microseconds since midnight tell the time of day. -/
theorem eq_of_clock_eq (hr : r.Timely) (hs : s.Timely) (hday : r.day = s.day)
    (hclock : r.clock = s.clock) : r = s := by
  obtain ⟨hhour, hminute, hsecond, hmicro⟩ := hr
  obtain ⟨hhour', hminute', hsecond', hmicro'⟩ := hs
  cases r
  cases s
  simp only [clock] at *
  simp only [Reading.mk.injEq]
  exact ⟨hday, by omega, by omega, by omega, by omega⟩

/-- **The order of moments is the order of years, months, days, hours and so on.** -/
theorem At.lt_iff (hr : r.At m) (hs : s.At n) : m < n ↔ r.Before s := by
  obtain ⟨timely, k, day, rfl⟩ := hr
  obtain ⟨timely', l, day', rfl⟩ := hs
  have hclock := clock_lt timely
  have hclock' := clock_lt timely'
  unfold Before
  rw [← day.lt_iff day', ← clock_lt_iff timely timely']
  by_cases hkl : k = l
  · subst hkl
    have hday := day.day_unique day'
    simp only [hday, true_and]
    omega
  · have hday : r.day ≠ s.day := by
      intro heq
      exact hkl (day.count_unique (heq ▸ day'))
    simp only [hday, false_and, or_false]
    unfold dayMicros at *
    omega

theorem At.unique (hr : r.At m) (hs : s.At m) : r = s := by
  obtain ⟨timely, k, day, rfl⟩ := hr
  obtain ⟨timely', l, day', heq⟩ := hs
  have hclock := clock_lt timely
  have hclock' := clock_lt timely'
  unfold dayMicros at *
  obtain rfl : k = l := by omega
  exact eq_of_clock_eq timely timely' (day.day_unique day') (by omega)

/-- A calendar and a clock show a reading at one moment alone. -/
theorem At.moment_unique (hr : r.At m) (hs : r.At n) : m = n := by
  obtain ⟨-, k, day, rfl⟩ := hr
  obtain ⟨-, l, day', rfl⟩ := hs
  rw [day.count_unique day']

/-- At every moment a calendar and a clock show a reading. -/
theorem exists_at (m : Int) : ∃ r : Reading, r.At m := by
  obtain ⟨day, hday⟩ := exists_counted (m / dayMicros)
  obtain ⟨k, hk⟩ : ∃ k : Nat, (k : Int) = m % dayMicros := by
    refine ⟨(m % dayMicros).toNat, Int.toNat_of_nonneg (Int.emod_nonneg m ?_)⟩
    decide
  have hlt : m % dayMicros < dayMicros := Int.emod_lt_of_pos m (by decide)
  have hm := Int.mul_ediv_add_emod m dayMicros
  unfold dayMicros at hlt hm hk
  let r : Reading := ⟨day, k / 3600000000, k / 60000000 % 60, k / 1000000 % 60, k % 1000000⟩
  have htimely : r.Timely := ⟨show k / 3600000000 < 24 by omega, Nat.mod_lt _ (by decide),
    Nat.mod_lt _ (by decide), Nat.mod_lt _ (by decide)⟩
  have hclock : r.clock = k := by
    simp only [r, clock]
    omega
  refine ⟨r, htimely, m / dayMicros, hday, ?_⟩
  rw [hclock]
  unfold dayMicros
  omega

end Reading

/-! ## Wall times -/

namespace WallTime

variable {w v : WallTime} {r : Reading}

/-- A wall time shows a reading by its date and its time of day. -/
structure Shows (w : WallTime) (r : Reading) : Prop where
  day : w.date.toDay = r.day
  timely : r.Timely
  clock : w.timeOfDay = r.clock

theorem Shows.at (h : w.Shows r) : r.At w.micros := by
  obtain ⟨hday, htimely, hclock⟩ := h
  have hcount := Date.counted_ofNumber w.div_dayMicros_lt
  refine ⟨htimely, _, hday ▸ hcount, ?_⟩
  rw [← hclock, timeOfDay]
  unfold dayMicros
  omega

/-- A wall time shows a reading. -/
theorem exists_shows (w : WallTime) : ∃ r, w.Shows r := by
  obtain ⟨r, htimely, n, -, hn⟩ := Reading.exists_at w.timeOfDay
  have hlt : w.timeOfDay < dayMicros := Nat.mod_lt _ (by decide)
  have hclock := Reading.clock_lt htimely
  have heq : w.timeOfDay = r.clock := by
    unfold dayMicros at *
    omega
  obtain ⟨hhour, hminute, hsecond, hmicro⟩ := htimely
  exact ⟨{ r with day := w.date.toDay }, ⟨rfl, ⟨hhour, hminute, hsecond, hmicro⟩, heq⟩⟩

/-- **A wall time shows what calendar and clock show after so many microseconds.** -/
theorem shows_iff_at : w.Shows r ↔ r.At w.micros := by
  constructor
  · exact Shows.at
  · intro h
    obtain ⟨s, hs⟩ := exists_shows w
    obtain rfl := hs.at.unique h
    exact hs

theorem Shows.inRange (h : w.Shows r) : r.day.InRange := by
  have hlt := w.div_dayMicros_lt
  have hcount := Date.counted_ofNumber hlt
  rw [← h.day]
  exact hcount.inRange_iff.2 ⟨Int.natCast_nonneg _, Int.ofNat_lt.2 hlt⟩

/-- What a calendar shows in the years 1 to 9999 and a clock at any time is shown by a wall time. -/
theorem exists_shows_of_inRange {m : Int} (h : r.At m) (hyear : r.day.InRange) :
    ∃ w : WallTime, (w.micros : Int) = m ∧ w.Shows r := by
  obtain ⟨timely, n, day, rfl⟩ := h
  obtain ⟨hn, hlimit⟩ := day.inRange_iff.1 hyear
  obtain ⟨k, rfl⟩ := Int.eq_ofNat_of_zero_le hn
  have hclock := Reading.clock_lt timely
  have hmicros : k * dayMicros + r.clock < calendarMicros := by
    unfold calendarMicros dayMicros dayLimit at *
    omega
  exact ⟨⟨k * dayMicros + r.clock, hmicros⟩, by simp, shows_iff_at.2 ⟨timely, k, day, by simp⟩⟩

end WallTime

/-! ## Instants -/

namespace Stamp

variable {a b s t : Stamp} {m n : Int}

/-- The instant that a stamp with an offset denotes: the moment at which calendar and clock show
what the stamp shows, less the offset. A stamp without an offset denotes none. -/
inductive Denotes : Stamp → Int → Prop
  | intro {w : WallTime} {o : Offset} {r : Reading} {m : Int} (shows : w.Shows r)
      (moment : r.At m) : Denotes ⟨w, some o⟩ (m - o.micros)

theorem denotes_iff : s.Denotes m ↔ s.offset ≠ none ∧ s.instant = m := by
  constructor
  · rintro ⟨hshows, hmoment⟩
    have hm := hmoment.moment_unique hshows.at
    exact ⟨by simp, by simp only [instant, offsetMicros]; omega⟩
  · rintro ⟨hoffset, rfl⟩
    obtain ⟨w, offset⟩ := s
    cases offset with
    | none => exact absurd rfl hoffset
    | some o =>
      obtain ⟨r, hr⟩ := w.exists_shows
      exact .intro hr hr.at

/-- Whether a stamp denotes an earlier instant than another one. -/
def Before (a b : Stamp) : Prop := ∃ m n, a.Denotes m ∧ b.Denotes n ∧ m < n

theorem atUtc_eq_ok_iff :
    s.atUtc = .ok t ↔ t = .utc t.wall ∧ (t.wall.micros : Int) = s.instant := by
  unfold atUtc
  cases h : s.toUtc? with
  | none =>
    have hnone : ∀ w : WallTime, (w.micros : Int) ≠ s.instant := by
      intro w hw
      rw [toUtc?_eq_some_iff.2 hw] at h
      cases h
    simp [hnone]
  | some w =>
    have hw := toUtc?_eq_some_iff.1 h
    simp only [Except.ok.injEq]
    constructor
    · rintro rfl
      exact ⟨rfl, hw⟩
    · rintro ⟨ht, hmicros⟩
      have hmicros' : w.micros = t.wall.micros := by omega
      have hwall : w = t.wall := by
        cases w
        cases hv : t.wall
        simp_all
      rw [ht, hwall]

theorem Denotes.unique (hm : s.Denotes m) (hn : s.Denotes n) : m = n := by
  have hm' := (denotes_iff.1 hm).2
  have hn' := (denotes_iff.1 hn).2
  omega

theorem denotes_utc (w : WallTime) : (utc w).Denotes w.micros := by
  refine denotes_iff.2 ⟨by simp [utc], ?_⟩
  simp [instant, offsetMicros, utc, Offset.utc]

/-- A stamp at UTC denotes the same instant as the stamp that was taken there. -/
theorem denotes_of_atUtc (h : s.atUtc = .ok t) (hs : s.offset ≠ none) :
    s.Denotes m ↔ t.Denotes m := by
  obtain ⟨ht, hmicros⟩ := atUtc_eq_ok_iff.1 h
  have hutc : t.Denotes t.wall.micros := by
    rw [ht]
    exact denotes_utc t.wall
  have hstamp : s.Denotes t.wall.micros := denotes_iff.2 ⟨hs, hmicros.symm⟩
  constructor
  · intro hm
    rwa [hm.unique hstamp]
  · intro hm
    rwa [hm.unique hutc]

theorem before_iff_of_denotes (hm : a.Denotes m) (hn : b.Denotes n) : a.Before b ↔ m < n := by
  constructor
  · rintro ⟨m', n', hm', hn', hlt⟩
    rwa [hm.unique hm', hn.unique hn']
  · intro hlt
    exact ⟨m, n, hm, hn, hlt⟩

/-! ## Taking stamps to UTC -/

theorem atUtc_naive (w : WallTime) : atUtc ⟨w, none⟩ = .ok (utc w) := by
  unfold atUtc
  rw [toUtc?_naive]

theorem atUtc_utc (w : WallTime) : (utc w).atUtc = .ok (utc w) := by
  unfold atUtc
  rw [toUtc?_utc]

/-- A stamp is taken to the wall time at UTC that shows what calendar and clock show at its instant,
if that is in the years 1 to 9999. -/
theorem atUtc_of_inRange {u : Reading} (hm : s.Denotes m) (hu : u.At m) (hyear : u.day.InRange) :
    ∃ w : WallTime, s.atUtc = .ok (utc w) ∧ w.Shows u := by
  obtain ⟨w, hw, hshows⟩ := WallTime.exists_shows_of_inRange hu hyear
  have hinstant := (denotes_iff.1 hm).2
  exact ⟨w, atUtc_eq_ok_iff.2 ⟨rfl, hw.trans hinstant.symm⟩, hshows⟩

/-- Taking a stamp to UTC fails exactly if calendar and clock show another year at its instant. -/
theorem atUtc_eq_error_iff {u : Reading} {f : Failure} (hm : s.Denotes m) (hu : u.At m) :
    s.atUtc = .error f ↔ ¬ u.day.InRange ∧ f = .dateOutOfRange := by
  constructor
  · intro h
    have houtside : ¬ u.day.InRange := by
      intro hyear
      obtain ⟨w, hw, -⟩ := atUtc_of_inRange hm hu hyear
      rw [h] at hw
      cases hw
    refine ⟨houtside, ?_⟩
    unfold atUtc at h
    split at h
    · cases h
    · cases h
      rfl
  · rintro ⟨houtside, rfl⟩
    cases h : s.atUtc with
    | ok t =>
      obtain ⟨ht, hmicros⟩ := atUtc_eq_ok_iff.1 h
      have hinstant := (denotes_iff.1 hm).2
      have hshows : t.wall.Shows u := by
        refine WallTime.shows_iff_at.2 ?_
        rwa [hmicros, hinstant]
      exact absurd hshows.inRange houtside
    | error g =>
      unfold atUtc at h
      split at h
      · cases h
      · exact h.symm

/-- What a stamp comes to at UTC depends on its instant alone. -/
theorem atUtc_congr (ha : a.Denotes m) (hb : b.Denotes m) : a.atUtc = b.atUtc := by
  have ha' := (denotes_iff.1 ha).2
  have hb' := (denotes_iff.1 hb).2
  unfold atUtc toUtc?
  rw [ha', hb']

/-- **Taking a stamp to UTC keeps the instant.** A stamp without an offset keeps what it shows and
counts as UTC. A stamp with one denotes an instant, at which calendar and clock show one reading: in
the years 1 to 9999 the stamp becomes the one at UTC that shows this reading and so denotes the same
instant, and in other years there is a failure. A stamp that was taken to UTC stays as it is. The
stamps at UTC are ordered, by all that they show, as the instants of the stamps that were taken
there, and they are the same exactly if the instants are. -/
theorem atUtc_keeps_instant (a : Stamp) :
    (a.offset = none → a.atUtc = .ok ⟨a.wall, some .utc⟩) ∧
      (a.offset ≠ none → ∃ m u, (∀ n, a.Denotes n ↔ n = m) ∧ (∀ v : Reading, v.At m ↔ v = u) ∧
        (u.day.InRange → ∃ t, a.atUtc = .ok t ∧ t.offset = some .utc ∧ t.Denotes m ∧
          t.wall.Shows u) ∧
        ∀ f, a.atUtc = .error f ↔
          ¬ u.day.InRange ∧ f = .fault .overflow "date value out of range") ∧
      (∀ t, a.atUtc = .ok t → t.atUtc = .ok t) ∧
      (∀ (b : Stamp) m, a.Denotes m → b.Denotes m → a.atUtc = b.atUtc) ∧
      ∀ b a' b' : Stamp, a.offset ≠ none → b.offset ≠ none → a.atUtc = .ok a' → b.atUtc = .ok b' →
        (a.Before b ↔ a'.Before b') ∧
        (∀ r q, a'.wall.Shows r → b'.wall.Shows q → (a.Before b ↔ r.Before q)) ∧
        (a' = b' ↔ ∃ m, a.Denotes m ∧ b.Denotes m) := by
  refine ⟨?naive, ?aware, ?again, fun b m => atUtc_congr, ?pairs⟩
  case naive =>
    intro h
    obtain ⟨w, offset⟩ := a
    obtain rfl : offset = none := h
    exact atUtc_naive w
  case aware =>
    intro h
    have hm : a.Denotes a.instant := denotes_iff.2 ⟨h, rfl⟩
    obtain ⟨u, hu⟩ := Reading.exists_at a.instant
    refine ⟨a.instant, u, fun n => ?_, fun v => ?_, fun hyear => ?_, fun f => ?_⟩
    · exact ⟨fun hn => hn.unique hm, fun hn => hn ▸ hm⟩
    · exact ⟨fun hv => hv.unique hu, fun hv => hv ▸ hu⟩
    · obtain ⟨w, hw, hshows⟩ := atUtc_of_inRange hm hu hyear
      exact ⟨utc w, hw, rfl, (denotes_of_atUtc hw h).1 hm, hshows⟩
    · exact atUtc_eq_error_iff hm hu
  case again =>
    intro t h
    rw [(atUtc_eq_ok_iff.1 h).1]
    exact atUtc_utc t.wall
  case pairs =>
    intro b a' b' ha hb hau hbu
    have hm : a.Denotes a.instant := denotes_iff.2 ⟨ha, rfl⟩
    have hn : b.Denotes b.instant := denotes_iff.2 ⟨hb, rfl⟩
    have hm' := (denotes_of_atUtc hau ha).1 hm
    have hn' := (denotes_of_atUtc hbu hb).1 hn
    rw [before_iff_of_denotes hm hn, before_iff_of_denotes hm' hn']
    refine ⟨Iff.rfl, fun r q hr hq => ?_, ?_, ?_⟩
    · rw [← (atUtc_eq_ok_iff.1 hau).2, ← (atUtc_eq_ok_iff.1 hbu).2]
      exact hr.at.lt_iff hq.at
    · rintro rfl
      exact ⟨a.instant, hm, (denotes_of_atUtc hbu hb).2 hm'⟩
    · rintro ⟨m, ham, hbm⟩
      rw [atUtc_congr ham hbm, hbu] at hau
      exact (Except.ok.inj hau).symm

/-- Half an hour into the year 2025 at five and a half hours before UTC, which is seven in the
evening of the day before; and the last microsecond before the calendar begins at UTC. -/
theorem atUtc_keeps_instant_new_year :
    let a : Stamp := ⟨⟨63871288200000000, by decide⟩, some ⟨19800000000, by decide⟩⟩
    let b : Stamp := ⟨⟨17999999999, by decide⟩, some ⟨18000000000, by decide⟩⟩
    a.wall.Shows ⟨⟨2025, 1, 1⟩, 0, 30, 0, 0⟩ ∧
      (∃ t, a.atUtc = .ok t ∧ t.offset = some .utc ∧
        t.wall.Shows ⟨⟨2024, 12, 31⟩, 19, 0, 0, 0⟩) ∧
      b.wall.Shows ⟨⟨1, 1, 1⟩, 4, 59, 59, 999999⟩ ∧
      b.atUtc = .error (.fault .overflow "date value out of range") := by
  intro a b
  have hat {d : Day} {hour minute second micro : Nat} {m : Int} (hd : d.Proper)
      (ht : Reading.Timely ⟨d, hour, minute, second, micro⟩)
      (hm : m = d.number * dayMicros + Reading.clock ⟨d, hour, minute, second, micro⟩) :
      Reading.At ⟨d, hour, minute, second, micro⟩ m :=
    ⟨ht, d.number, counted_iff.2 ⟨hd, rfl⟩, hm⟩
  obtain ⟨-, haware, -⟩ := atUtc_keeps_instant a
  obtain ⟨m, u, hm, hu, hkept, -⟩ := haware (by decide)
  obtain ⟨-, haware', -⟩ := atUtc_keeps_instant b
  obtain ⟨n, v, hn, hv, -, hfails⟩ := haware' (by decide)
  obtain rfl : a.instant = m := (hm _).1 (denotes_iff.2 ⟨by decide, rfl⟩)
  obtain rfl : b.instant = n := (hn _).1 (denotes_iff.2 ⟨by decide, rfl⟩)
  have hevening := (hu ⟨⟨2024, 12, 31⟩, 19, 0, 0, 0⟩).1
    (hat ⟨by decide, by decide⟩ ⟨by decide, by decide, by decide, by decide⟩ (by decide))
  have hbefore := (hv ⟨⟨0, 12, 31⟩, 23, 59, 59, 999999⟩).1
    (hat ⟨by decide, by decide⟩ ⟨by decide, by decide, by decide, by decide⟩ (by decide))
  subst hevening hbefore
  refine ⟨WallTime.shows_iff_at.2 ?_, ?_, WallTime.shows_iff_at.2 ?_, ?_⟩
  · exact hat ⟨by decide, by decide⟩ ⟨by decide, by decide, by decide, by decide⟩ (by decide)
  · obtain ⟨t, ht, hutc, -, hshows⟩ := hkept (by decide)
    exact ⟨t, ht, hutc, hshows⟩
  · exact hat ⟨by decide, by decide⟩ ⟨by decide, by decide, by decide, by decide⟩ (by decide)
  · exact (hfails _).2 ⟨by decide, rfl⟩

end Stamp

end Discography.Calendar
