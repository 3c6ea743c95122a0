import Discography.Calendar.Written
import Discography.Failure
import Discography.Log.Shown

/-!
# Moments of records

A record is made at a number of seconds after the beginning of 1970, which may be an integer or a
number of the 64-bit format. In a machine-readable line the moment is rounded to microseconds, a tie
to the even one; in a line for people it is cut to milliseconds.
-/

set_option autoImplicit false

namespace Discography.Log

open Discography.Calendar Discography.Json Discography.Number Discography.Text

/-- When a record was made. -/
inductive Moment where
  | whole (seconds : Int)
  | binary (seconds : Binary64)
  /-- A value of a kind that is no number. -/
  | unusable (kind : String)
  deriving DecidableEq, Repr

/-- The moment that a value stands for. -/
def Moment.ofValue : Value → Moment
  | .integer n => .whole n
  | .bool b => .whole (if b then 1 else 0)
  | .decimal d => .binary d.toBinary64
  | .special .nan => .binary .nan
  | .special .infinity => .binary (.infinity false)
  | .special .negativeInfinity => .binary (.infinity true)
  | v => .unusable (kindWord v)

/-! ## Failures -/

/-- A moment beyond the range of the clock. -/
def clockRange : Failure := .fault .overflow "timestamp out of range for platform time_t"

/-- A moment whose year is beyond the range of years. -/
def yearRange : Failure := .fault .os "[Errno 75] Value too large for defined data type"

/-- A moment that is not a number. -/
def noMoment : Failure := .fault .value "Invalid value NaN (not a number)"

/-- A year outside the calendar. -/
def yearOutside (year : Int) : Failure :=
  .fault .value ("year " ++ signedDecimal year ++ " is out of range")

/-- A moment of a kind that is no number. -/
def wrongKind (kind : String) : Failure :=
  .fault .type ("\x27" ++ kind ++ "\x27 object cannot be interpreted as an integer")

/-! ## The calendar in cycles -/

/-- The day number of the beginning of 1970. -/
def epochDay : Nat := 719162

/-- The days of four hundred years. -/
def cycleDays : Nat := 146097

/-- The date of a number of seconds in the calendar continued in both directions: the cycles of
four hundred years that are to be added, and a date of the first cycle. -/
def cycleDate (seconds : Int) : Int × Date :=
  let day : Int := epochDay + Int.fdiv seconds 86400
  (Int.fdiv day cycleDays, Date.ofNumber (Int.fmod day cycleDays).toNat)

/-- The year of a number of seconds. -/
def yearOfSeconds (seconds : Int) : Int :=
  let (cycles, date) := cycleDate seconds
  date.year + 400 * cycles

/-- Whether a number of seconds is within the range of the clock and of its years. -/
def checkRange (seconds : Int) : Except Failure Unit :=
  if seconds < -9223372036854775808 ∨ 9223372036854775808 ≤ seconds then .error clockRange
  else
    let year := yearOfSeconds seconds - 1900
    if year < -2147483648 ∨ 2147483648 ≤ year then .error yearRange else .ok ()

namespace Moment

/-- A signed fraction in thousandths of a power of ten, rounded to the 64-bit format. -/
def fractionTimes (negative : Bool) (significand : Nat) (exponent : Int) (factor : Nat) : Binary64 :=
  let r := Binary64.ratio significand exponent
  .ofRatio negative (r.1 % r.2 * factor) r.2

/-- A finite number rounded to an integer, a tie to the even one. -/
def rounded : Binary64 → Int
  | .finite negative significand exponent =>
    let r := Binary64.ratio significand exponent
    let n : Int := roundEven r.1 r.2
    if negative then -n else n
  | _ => 0

/-- The microseconds after the beginning of 1970. -/
def micros : Moment → Except Failure Int
  | .whole n => .ok (n * 1000000)
  | .binary .nan => .error noMoment
  | .binary (.infinity _) => .error clockRange
  | .binary (.finite negative significand exponent) =>
    .ok (Binary64.truncate negative significand exponent * 1000000 +
      rounded (fractionTimes negative significand exponent 1000000))
  | .unusable kind => .error (wrongKind kind)

/-- The stamp of a moment, in UTC. -/
def stamp (m : Moment) : Except Failure Stamp := do
  let micros ← m.micros
  let seconds := Int.fdiv micros 1000000
  checkRange seconds
  match WallTime.ofMicros? (micros + epochDay * dayMicros) with
  | some w => .ok (.utc w)
  | none => .error (yearOutside (Int.bmod (yearOfSeconds seconds) 4294967296))

/-- The seconds of a moment, cut to the one before. -/
def seconds : Moment → Except Failure Int
  | .whole n => .ok n
  | .binary .nan => .error noMoment
  | .binary (.infinity _) => .error clockRange
  | .binary (.finite negative significand exponent) =>
    let r := Binary64.ratio significand exponent
    let n : Int := r.1
    .ok (Int.fdiv (if negative then -n else n) r.2)
  | .unusable kind => .error (wrongKind kind)

/-- The thousandths of a second of a moment, cut toward zero, with the sign of the moment. -/
def thousandths : Moment → Int
  | .binary (.finite negative significand exponent) =>
    match fractionTimes negative significand exponent 1000 with
    | .finite negative significand exponent =>
      Binary64.truncate negative significand exponent
    | _ => 0
  | _ => 0

/-- A signed number with at least three characters. -/
def threeWide (n : Int) : String :=
  if n < 0 then "-" ++ padded 2 n.natAbs else padded 3 n.natAbs

/-- The date and time of a moment for people. Years have as many digits as they need. -/
def dateTime (m : Moment) : Except Failure String := do
  let seconds ← m.seconds
  checkRange seconds
  let (cycles, date) := cycleDate seconds
  let time := (Int.fmod seconds 86400).toNat
  pure (signedDecimal (date.year + 400 * cycles) ++ "-" ++ padded 2 date.month ++ "-" ++
    padded 2 date.day ++ " " ++ clockText time)

end Moment

end Discography.Log
