import Discography.Calendar.Date

/-!
# Moments

A wall time is a date and a time of day, counted in microseconds from the start of year 1. A stamp
is a wall time with or without its distance from UTC. A stamp without one is taken as UTC.

* `Stamp.toUtc?_eq_some_iff` — the UTC wall time of a stamp is its instant.
* `Stamp.toUtc?_utc` — a UTC stamp stays as it is.
* `Stamp.toUtc?_naive` — a stamp without an offset keeps its wall time.
-/

set_option autoImplicit false

namespace Discography.Calendar

/-- The number of microseconds of a day. -/
def dayMicros : Nat := 86400000000

/-- The number of microseconds of all days of the calendar. -/
def calendarMicros : Nat := dayLimit * dayMicros

/-- A date and a time of day to the microsecond, as the count of microseconds since the start of
the first of January of year 1. -/
structure WallTime where
  micros : Nat
  micros_lt : micros < calendarMicros
  deriving DecidableEq, Repr

namespace WallTime

instance : Inhabited WallTime := ⟨⟨0, by decide⟩⟩

/-- The date of a wall time. -/
def date (w : WallTime) : Date := Date.ofNumber (w.micros / dayMicros)

/-- The microseconds since midnight. -/
def timeOfDay (w : WallTime) : Nat := w.micros % dayMicros

/-- The wall time at a count of microseconds, if the calendar has it. -/
def ofMicros? (n : Int) : Option WallTime :=
  match n with
  | .ofNat k => if h : k < calendarMicros then some ⟨k, h⟩ else none
  | .negSucc _ => none

theorem ofMicros?_eq_some_iff {n : Int} {w : WallTime} :
    ofMicros? n = some w ↔ (w.micros : Int) = n := by
  constructor
  · intro h
    unfold ofMicros? at h
    split at h
    · split at h
      · cases h; rfl
      · simp at h
    · simp at h
  · rintro rfl
    simp [ofMicros?, w.micros_lt]

end WallTime

/-- A distance from UTC in microseconds, less than a day in either direction. -/
structure Offset where
  micros : Int
  bounded : micros.natAbs < dayMicros
  deriving DecidableEq, Repr

namespace Offset

/-- No distance from UTC. -/
def utc : Offset := ⟨0, by decide⟩

/-- The distance of a count of microseconds, if it is less than a day. -/
def ofMicros? (n : Int) : Option Offset :=
  if h : n.natAbs < dayMicros then some ⟨n, h⟩ else none

end Offset

/-- A wall time and its distance from UTC, if that is known. -/
structure Stamp where
  wall : WallTime
  offset : Option Offset
  deriving DecidableEq, Repr

namespace Stamp

instance : Inhabited Stamp := ⟨⟨default, none⟩⟩

/-- The stamp of a UTC wall time. -/
def utc (w : WallTime) : Stamp := ⟨w, some .utc⟩

/-- Whether a stamp is at UTC. -/
def isUtc (s : Stamp) : Bool := s.offset == some .utc

/-- The distance from UTC in microseconds, zero where it is not known. -/
def offsetMicros (s : Stamp) : Int :=
  match s.offset with
  | some o => o.micros
  | none => 0

/-- The moment of a stamp in microseconds since the start of year 1 at UTC. -/
def instant (s : Stamp) : Int := s.wall.micros - s.offsetMicros

/-- The UTC wall time of a stamp, if the calendar has it. -/
def toUtc? (s : Stamp) : Option WallTime := WallTime.ofMicros? s.instant

theorem toUtc?_eq_some_iff {s : Stamp} {w : WallTime} :
    s.toUtc? = some w ↔ (w.micros : Int) = s.instant :=
  WallTime.ofMicros?_eq_some_iff

theorem toUtc?_utc (w : WallTime) : (utc w).toUtc? = some w :=
  toUtc?_eq_some_iff.2 (by simp [instant, offsetMicros, utc, Offset.utc])

theorem toUtc?_naive (w : WallTime) : toUtc? ⟨w, none⟩ = some w :=
  toUtc?_eq_some_iff.2 (by simp [instant, offsetMicros])

/-- Whether two stamps are equal: both with an offset and of the same instant, or both without one
and of the same wall time. -/
def same (a b : Stamp) : Bool :=
  match a.offset, b.offset with
  | some _, some _ => a.instant == b.instant
  | none, none => a.wall == b.wall
  | _, _ => false

end Stamp

end Discography.Calendar
