import Discography.Calendar.Stamp
import Discography.Text.Digit

/-!
# Written stamps

The text of a stamp is its date, a separator, its time of day and its offset. The fraction of a
second has six digits and is left out when it is zero. Two styles differ in the offset: one writes
it in full and always, the other cuts it to minutes and writes `Z` for none.

* `Stamp.read?` reads the text of either style back, with `T` as the separator.
-/

set_option autoImplicit false

namespace Discography.Calendar

open Discography.Text

/-- A fraction of a second in microseconds, with its point, unless it is zero. -/
def fractionText (micros : Nat) : String :=
  if micros = 0 then "" else "." ++ padded 6 micros

/-- Hours, minutes and seconds of a count of seconds. -/
def clockText (seconds : Nat) : String :=
  padded 2 (seconds / 3600) ++ ":" ++ padded 2 (seconds / 60 % 60) ++ ":" ++ padded 2 (seconds % 60)

/-- A date in the order year, month, day. -/
def Date.text (d : Date) : String :=
  padded 4 d.year ++ "-" ++ padded 2 d.month ++ "-" ++ padded 2 d.day

/-- A wall time with a separator between date and time of day. -/
def WallTime.text (separator : String) (w : WallTime) : String :=
  w.date.text ++ separator ++ clockText (w.timeOfDay / 1000000) ++
    fractionText (w.timeOfDay % 1000000)

namespace Offset

/-- The sign of an offset; no distance counts as positive. -/
def sign (o : Offset) : String := if o.micros < 0 then "-" else "+"

/-- Hours and minutes of an offset, cut toward zero, with the sign kept. -/
def minuteText (o : Offset) : String :=
  let seconds := o.micros.natAbs / 1000000
  o.sign ++ padded 2 (seconds / 3600) ++ ":" ++ padded 2 (seconds / 60 % 60)

/-- An offset with as many parts as it needs: seconds and microseconds only where not zero. -/
def fullText (o : Offset) : String :=
  let micros := o.micros.natAbs % 1000000
  let seconds := o.micros.natAbs / 1000000 % 60
  o.minuteText ++
    (if seconds = 0 ∧ micros = 0 then "" else ":" ++ padded 2 seconds ++ fractionText micros)

/-- An offset cut to minutes, or `Z` for none. -/
def briefText (o : Offset) : String := if o.micros = 0 then "Z" else o.minuteText

end Offset

namespace Stamp

/-- A stamp with its offset in full. -/
def fullText (s : Stamp) : String :=
  s.wall.text "T" ++ (s.offset.map Offset.fullText).getD ""

/-- A stamp with its offset in full and a space before the time of day. -/
def spacedText (s : Stamp) : String :=
  s.wall.text " " ++ (s.offset.map Offset.fullText).getD ""

/-- A stamp with its offset cut to minutes, and `Z` for UTC. -/
def briefText (s : Stamp) : String :=
  s.wall.text "T" ++ (s.offset.map Offset.briefText).getD ""

end Stamp

/-! ## Reading -/

/-- The number spelled by the next `width` ASCII digits, and what follows them. -/
def fixed? (width : Nat) (s : List Char) : Option (Nat × List Char) :=
  let ds := s.take width
  if ds.length = width ∧ ds.all Char.isDigit then
    some (ofDigits 10 (ds.map fun c => c.toNat - '0'.toNat), s.drop width)
  else none

/-- What follows a character, if the text starts with it. -/
def mark? (c : Char) : List Char → Option (List Char)
  | [] => none
  | d :: r => if c = d then some r else none

/-- A fraction of a second in microseconds, zero if there is no point, and what follows. -/
def fractionMicros? : List Char → Option (Nat × List Char)
  | '.' :: r => fixed? 6 r
  | s => some (0, s)

/-- The microseconds of hours, minutes, seconds and a fraction. -/
def clockMicros (hours minutes seconds micros : Nat) : Nat :=
  (hours * 3600 + minutes * 60 + seconds) * 1000000 + micros

/-- The seconds and the fraction of an offset in microseconds, if any follow. -/
def offsetTail? : List Char → Option Nat
  | [] => some 0
  | ':' :: r => do
    let (seconds, r) ← fixed? 2 r
    let (micros, r) ← fractionMicros? r
    if seconds < 60 ∧ r.isEmpty then some (seconds * 1000000 + micros) else none
  | _ => none

/-- The distance in microseconds of an offset after its sign. -/
def offsetSpan? (s : List Char) : Option Nat := do
  let (hours, r) ← fixed? 2 s
  let r ← mark? ':' r
  let (minutes, r) ← fixed? 2 r
  let tail ← offsetTail? r
  if minutes < 60 then some (clockMicros hours minutes 0 tail) else none

/-- An offset that ends a text, or none at its end. -/
def offset? : List Char → Option (Option Offset)
  | [] => some none
  | ['Z'] => some (some .utc)
  | '+' :: r => ((offsetSpan? r).bind fun n => Offset.ofMicros? n).map some
  | '-' :: r => ((offsetSpan? r).bind fun n => Offset.ofMicros? (-n)).map some
  | _ => none

/-- A date, and what follows it. -/
def date? (s : List Char) : Option (Date × List Char) := do
  let (year, r) ← fixed? 4 s
  let r ← mark? '-' r
  let (month, r) ← fixed? 2 r
  let r ← mark? '-' r
  let (day, r) ← fixed? 2 r
  let d : Date := ⟨year, month, day⟩
  if d.isValid then some (d, r) else none

/-- A time of day in microseconds, and what follows it. -/
def clock? (s : List Char) : Option (Nat × List Char) := do
  let (hours, r) ← fixed? 2 s
  let r ← mark? ':' r
  let (minutes, r) ← fixed? 2 r
  let r ← mark? ':' r
  let (seconds, r) ← fixed? 2 r
  let (micros, r) ← fractionMicros? r
  if hours < 24 ∧ minutes < 60 ∧ seconds < 60 then
    some (clockMicros hours minutes seconds micros, r)
  else none

/-- The stamp of a text with `T` before the time of day. -/
def Stamp.read? (s : String) : Option Stamp := do
  let (d, r) ← date? s.toList
  let r ← mark? 'T' r
  let (time, r) ← clock? r
  let offset ← offset? r
  let wall ← WallTime.ofMicros? ((d.number * dayMicros + time : Nat) : Int)
  some ⟨wall, offset⟩

end Discography.Calendar
