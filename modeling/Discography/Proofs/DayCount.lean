import Mathlib.Tactic.IntervalCases
import Discography.Calendar.Stamp

/-!
# Counting days

The calendar continued in both directions, told by how one day follows another: a month ends after
its last day and a year after its last month. Days are counted one by one from the first of January
of year 1, and the day numbers of the calendar are these counts.

* `Day.next` — the day after a day; `Counted` — how many days have passed since the first one.
* `counted_iff` — the count of a day by a formula, with leap years counted off by divisions.
* `Counted.lt_iff` — the order of the counts is the order of year, month and day.
* `Date.counted_number` — a date of the calendar has its day number as its count.
* `Counted.inRange_iff` — the counts of the years 1 to 9999 are those below `dayLimit`.
-/

set_option autoImplicit false

namespace Discography.Calendar

/-- A day of the calendar continued in both directions, where year 0 is the one before year 1. -/
structure Day where
  year : Int
  month : Nat
  day : Nat
  deriving DecidableEq, Repr

/-- Every fourth year is a leap year, but of those that end a century only every fourth one. -/
def Leaps (year : Int) : Prop := year % 4 = 0 ∧ (year % 100 ≠ 0 ∨ year % 400 = 0)

instance (year : Int) : Decidable (Leaps year) := inferInstanceAs (Decidable (_ ∧ _))

/-- The number of days of a month. -/
def monthLength (year : Int) (month : Nat) : Nat :=
  if month = 2 then (if Leaps year then 29 else 28)
  else if month = 4 ∨ month = 6 ∨ month = 9 ∨ month = 11 then 30
  else 31

namespace Day

/-- The first day of year 1. -/
def first : Day := ⟨1, 1, 1⟩

/-- The day after a day. -/
def next (d : Day) : Day :=
  if d.day < monthLength d.year d.month then ⟨d.year, d.month, d.day + 1⟩
  else if d.month < 12 then ⟨d.year, d.month + 1, 1⟩
  else ⟨d.year + 1, 1, 1⟩

/-- A day that the calendar has: its month is one of twelve and its day is one of the month. -/
structure Proper (d : Day) : Prop where
  month : 1 ≤ d.month ∧ d.month ≤ 12
  day : 1 ≤ d.day ∧ d.day ≤ monthLength d.year d.month

/-- Whether a day is in one of the years 1 to 9999. -/
def InRange (d : Day) : Prop := 1 ≤ d.year ∧ d.year ≤ 9999

instance (d : Day) : Decidable d.InRange := inferInstanceAs (Decidable (_ ∧ _))

end Day

/-- How many days have passed from the first day of year 1 to a day; before it, the count is
negative. -/
inductive Counted : Int → Day → Prop
  | start : Counted 0 .first
  | forward {n : Int} {d : Day} (day : Counted n d) : Counted (n + 1) d.next
  | backward {n : Int} {d : Day} (proper : d.Proper) (day : Counted (n + 1) d.next) : Counted n d

/-! ## The formula -/

/-- The number of days from the beginning of year 1 to that of a year. -/
def daysBefore (year : Int) : Int :=
  (year - 1) * 365 + (year - 1) / 4 - (year - 1) / 100 + (year - 1) / 400

/-- The number of days of a year before a month. -/
def daysBeforeMonth (year : Int) : Nat → Nat
  | 0 | 1 => 0
  | month + 2 => daysBeforeMonth year (month + 1) + monthLength year (month + 1)

/-- The count of a day by a formula. -/
def Day.number (d : Day) : Int :=
  daysBefore d.year + daysBeforeMonth d.year d.month + d.day - 1

theorem monthLength_pos (year : Int) (month : Nat) : 1 ≤ monthLength year month := by
  unfold monthLength
  split
  · split <;> omega
  · split <;> omega

theorem monthLength_le (year : Int) (month : Nat) : monthLength year month ≤ 31 := by
  unfold monthLength
  split
  · split <;> omega
  · split <;> omega

theorem daysBeforeMonth_succ (year : Int) {month : Nat} (h : 1 ≤ month) :
    daysBeforeMonth year (month + 1) = daysBeforeMonth year month + monthLength year month := by
  obtain ⟨m, rfl⟩ : ∃ m, month = m + 1 := ⟨month - 1, by omega⟩
  rfl

/-- The months before a later month take in the earlier month as a whole. -/
theorem daysBeforeMonth_add_le (year : Int) {m m' : Nat} (hm : 1 ≤ m) (h : m < m') :
    daysBeforeMonth year m + monthLength year m ≤ daysBeforeMonth year m' := by
  induction m', h using Nat.le_induction with
  | base => rw [daysBeforeMonth_succ year hm]
  | succ m' hle ih =>
    rw [daysBeforeMonth_succ year (by omega)]
    omega

theorem daysBefore_succ (year : Int) :
    daysBefore (year + 1) = daysBefore year + daysBeforeMonth year 13 := by
  by_cases h : Leaps year
  · have hyear : daysBeforeMonth year 13 = 366 := by simp [daysBeforeMonth, monthLength, h]
    rw [hyear]
    unfold daysBefore
    unfold Leaps at h
    omega
  · have hyear : daysBeforeMonth year 13 = 365 := by simp [daysBeforeMonth, monthLength, h]
    rw [hyear]
    unfold daysBefore
    unfold Leaps at h
    omega

theorem daysBefore_mono {y z : Int} (h : y ≤ z) : daysBefore y ≤ daysBefore z := by
  unfold daysBefore
  omega

/-! ## Neighbours -/

namespace Day

theorem next_proper {d : Day} (h : d.Proper) : d.next.Proper := by
  obtain ⟨hmonth, hday⟩ := h
  unfold next
  split
  · exact ⟨hmonth, by simp only; omega⟩
  · split
    · exact ⟨by simp only; omega, Nat.le_refl 1, monthLength_pos _ _⟩
    · exact ⟨by simp only; omega, Nat.le_refl 1, monthLength_pos _ _⟩

/-- The formula counts one more for the day after. -/
theorem number_next {d : Day} (h : d.Proper) : d.next.number = d.number + 1 := by
  obtain ⟨y, m, k⟩ := d
  obtain ⟨hmonth, hday⟩ := h
  unfold next
  simp only at hmonth hday ⊢
  split
  · simp only [number]
    omega
  · have hlast : k = monthLength y m := by omega
    split
    · have hsucc := daysBeforeMonth_succ y hmonth.1
      simp only [number]
      omega
    · obtain rfl : m = 12 := by omega
      have hyear := daysBefore_succ y
      have hdecember : daysBeforeMonth y 13 = daysBeforeMonth y 12 + monthLength y 12 := rfl
      have hjanuary : daysBeforeMonth (y + 1) 1 = 0 := rfl
      simp only [number]
      omega

/-- Every day follows another one. -/
theorem exists_next_eq {d : Day} (h : d.Proper) : ∃ e : Day, e.Proper ∧ e.next = d := by
  obtain ⟨y, m, k⟩ := d
  obtain ⟨hmonth, hday⟩ := h
  simp only at hmonth hday
  by_cases hk : k = 1
  · subst hk
    by_cases hm : m = 1
    · subst hm
      refine ⟨⟨y - 1, 12, 31⟩, ⟨by simp only; omega, ?_⟩, by simp [next, monthLength]⟩
      exact ⟨show 1 ≤ 31 by decide, Nat.le_refl 31⟩
    · refine ⟨⟨y, m - 1, monthLength y (m - 1)⟩, ⟨by simp only; omega, ?_⟩, ?_⟩
      · exact ⟨monthLength_pos _ _, Nat.le_refl _⟩
      · have hback : m - 1 + 1 = m := by omega
        simp only [next, Nat.lt_irrefl, if_false, hback]
        rw [if_pos (by omega)]
  · refine ⟨⟨y, m, k - 1⟩, ⟨hmonth, by simp only; omega⟩, ?_⟩
    have hback : k - 1 + 1 = k := by omega
    simp only [next, hback]
    rw [if_pos (by omega)]

/-! ## Order -/

/-- Whether a day comes before another one by year, month and day. -/
def Before (d e : Day) : Prop :=
  d.year < e.year ∨ d.year = e.year ∧ (d.month < e.month ∨ d.month = e.month ∧ d.day < e.day)

theorem before_or_eq_or_before (d e : Day) : d.Before e ∨ d = e ∨ e.Before d := by
  have heq : d = e ↔ d.year = e.year ∧ d.month = e.month ∧ d.day = e.day := by
    cases d
    cases e
    simp
  rw [heq]
  unfold Before
  omega

theorem daysBefore_le_number {d : Day} (h : d.Proper) : daysBefore d.year ≤ d.number := by
  have hday := h.day
  unfold number
  omega

theorem number_lt_daysBefore {d : Day} (h : d.Proper) : d.number < daysBefore (d.year + 1) := by
  obtain ⟨hmonth, hday⟩ := h
  have hrest := daysBeforeMonth_add_le d.year hmonth.1 (show d.month < 13 by omega)
  rw [daysBefore_succ]
  unfold number
  omega

theorem number_lt_of_before {d e : Day} (hd : d.Proper) (he : e.Proper) (h : d.Before e) :
    d.number < e.number := by
  rcases h with hyear | ⟨hyear, hmonth | ⟨hmonth, hday⟩⟩
  · calc d.number
      _ < daysBefore (d.year + 1) := number_lt_daysBefore hd
      _ ≤ daysBefore e.year := daysBefore_mono hyear
      _ ≤ e.number := daysBefore_le_number he
  · have hrest := daysBeforeMonth_add_le d.year hd.month.1 hmonth
    have hd' := hd.day
    have he' := he.day
    unfold number
    rw [← hyear]
    omega
  · unfold number
    rw [← hyear, ← hmonth]
    omega

theorem number_inj {d e : Day} (hd : d.Proper) (he : e.Proper) (h : d.number = e.number) :
    d = e := by
  rcases before_or_eq_or_before d e with hlt | heq | hlt
  · have := number_lt_of_before hd he hlt
    omega
  · exact heq
  · have := number_lt_of_before he hd hlt
    omega

end Day

/-! ## Counts -/

theorem Counted.proper_and_number {n : Int} {d : Day} (h : Counted n d) :
    d.Proper ∧ d.number = n := by
  induction h with
  | start => exact ⟨⟨by decide, by decide⟩, by decide⟩
  | forward _ ih =>
    obtain ⟨hproper, hnumber⟩ := ih
    exact ⟨Day.next_proper hproper, by rw [Day.number_next hproper, hnumber]⟩
  | backward proper _ ih =>
    have hnext := Day.number_next proper
    exact ⟨proper, by omega⟩

/-- Every count belongs to a day: forward a day has a next one, backward it follows another one. -/
theorem exists_counted (n : Int) : ∃ d, Counted n d := by
  have hforward (k : Nat) : ∃ d, Counted k d := by
    induction k with
    | zero => exact ⟨_, .start⟩
    | succ k ih =>
      obtain ⟨d, hd⟩ := ih
      exact ⟨d.next, .forward hd⟩
  have hbackward (k : Nat) : ∃ d, Counted (-k) d := by
    induction k with
    | zero => exact ⟨_, .start⟩
    | succ k ih =>
      obtain ⟨d, hd⟩ := ih
      obtain ⟨e, hproper, rfl⟩ := Day.exists_next_eq hd.proper_and_number.1
      have hstep : -((k + 1 : Nat) : Int) + 1 = -(k : Int) := by omega
      exact ⟨e, .backward hproper (hstep ▸ hd)⟩
  rcases Int.le_total 0 n with h | h
  · obtain ⟨k, rfl⟩ := Int.eq_ofNat_of_zero_le h
    exact hforward k
  · obtain ⟨k, hk⟩ := Int.eq_ofNat_of_zero_le (show 0 ≤ -n by omega)
    obtain rfl : n = -(k : Int) := by omega
    exact hbackward k

/-- **Counting days one by one agrees with the formula.** -/
theorem counted_iff {n : Int} {d : Day} : Counted n d ↔ d.Proper ∧ d.number = n := by
  constructor
  · exact Counted.proper_and_number
  · rintro ⟨hproper, rfl⟩
    obtain ⟨e, he⟩ := exists_counted d.number
    obtain ⟨hproper', hnumber⟩ := he.proper_and_number
    obtain rfl := Day.number_inj hproper' hproper hnumber
    exact he

namespace Counted

variable {n m : Int} {d e : Day}

theorem day_unique (hd : Counted n d) (he : Counted n e) : d = e := by
  obtain ⟨hd, hn⟩ := counted_iff.1 hd
  obtain ⟨he, hm⟩ := counted_iff.1 he
  exact Day.number_inj hd he (hn.trans hm.symm)

theorem count_unique (hd : Counted n d) (he : Counted m d) : n = m := by
  obtain ⟨-, rfl⟩ := counted_iff.1 hd
  exact (counted_iff.1 he).2

/-- **The order of the counts is the order of year, month and day.** -/
theorem lt_iff (hd : Counted n d) (he : Counted m e) : n < m ↔ d.Before e := by
  obtain ⟨hproper, rfl⟩ := counted_iff.1 hd
  obtain ⟨hproper', rfl⟩ := counted_iff.1 he
  constructor
  · intro h
    rcases Day.before_or_eq_or_before d e with hlt | rfl | hlt
    · exact hlt
    · omega
    · have := Day.number_lt_of_before hproper' hproper hlt
      omega
  · exact Day.number_lt_of_before hproper hproper'

/-- The counts of the years 1 to 9999 are those from zero up to `dayLimit`. -/
theorem inRange_iff (h : Counted n d) : d.InRange ↔ 0 ≤ n ∧ n < dayLimit := by
  obtain ⟨hproper, rfl⟩ := counted_iff.1 h
  have hbegin : daysBefore 1 = 0 := by decide
  have hend : daysBefore 10000 = dayLimit := by decide
  have hle := Day.daysBefore_le_number hproper
  have hlt := Day.number_lt_daysBefore hproper
  have hmono {y z : Int} := @daysBefore_mono y z
  unfold Day.InRange
  constructor
  · rintro ⟨hfirst, hlast⟩
    have h1 := hmono hfirst
    have h2 := hmono (show d.year + 1 ≤ 10000 by omega)
    omega
  · rintro ⟨hfirst, hlast⟩
    constructor
    · by_contra hyear
      have h1 := hmono (show d.year + 1 ≤ 1 by omega)
      omega
    · by_contra hyear
      have h2 := hmono (show 10000 ≤ d.year by omega)
      omega

end Counted

/-! ## Dates -/

namespace Date

/-- A date as a day of the continued calendar. -/
def toDay (d : Date) : Day := ⟨d.year, d.month, d.day⟩

end Date

theorem leaps_iff (year : Nat) : Leaps year ↔ isLeap year = true := by
  simp only [Leaps, isLeap, Bool.and_eq_true, Bool.or_eq_true, beq_iff_eq, bne_iff_ne]
  omega

theorem getD_monthLengths (year : Nat) {month : Nat} (h : 1 ≤ month ∧ month ≤ 12) :
    (monthLengths year).getD (month - 1) 0 = monthLength year month := by
  obtain ⟨h1, h12⟩ := h
  simp only [monthLength, leaps_iff]
  interval_cases month <;> rfl

theorem total_take_monthLengths (year : Nat) {month : Nat} (h : 1 ≤ month ∧ month ≤ 12) :
    total ((monthLengths year).take (month - 1)) = daysBeforeMonth year month := by
  obtain ⟨h1, h12⟩ := h
  simp only [monthLengths, ← leaps_iff]
  interval_cases month <;> simp [total, daysBeforeMonth, monthLength, Nat.add_assoc]

theorem daysBeforeYear_eq {year : Nat} (h : 1 ≤ year) :
    (daysBeforeYear year : Int) = daysBefore year := by
  simp only [daysBeforeYear, daysBefore]
  omega

namespace Date

variable {d : Date}

theorem isValid_iff : d.isValid = true ↔ d.toDay.Proper ∧ d.toDay.InRange := by
  simp only [isValid, decide_eq_true_eq]
  constructor
  · rintro ⟨hyear, hmonth, hday⟩
    rw [getD_monthLengths _ hmonth] at hday
    exact ⟨⟨hmonth, hday⟩, by simp only [Day.InRange, toDay]; omega⟩
  · rintro ⟨⟨hmonth, hday⟩, hyear⟩
    simp only [Day.InRange, toDay] at hyear hmonth hday
    rw [getD_monthLengths _ hmonth]
    exact ⟨by omega, hmonth, hday⟩

/-- **The day number of a date is its count.** -/
theorem counted_number (h : d.isValid = true) : Counted d.number d.toDay := by
  obtain ⟨hproper, hyear⟩ := isValid_iff.1 h
  refine counted_iff.2 ⟨hproper, ?_⟩
  obtain ⟨hmonth, hday⟩ := hproper
  simp only [Day.InRange, toDay] at hyear hmonth hday
  simp only [Day.number, Date.number, toDay, total_take_monthLengths d.year hmonth]
  have hbefore := daysBeforeYear_eq (show 1 ≤ d.year by omega)
  omega

/-- The date of a day number is the day of that count. -/
theorem counted_ofNumber {n : Nat} (h : n < dayLimit) : Counted n (ofNumber n).toDay := by
  have hcount := counted_number (isValid_ofNumber h)
  rwa [number_ofNumber] at hcount

end Date

namespace WallTime

variable (w : WallTime)

theorem div_dayMicros_lt : w.micros / dayMicros < dayLimit := by
  refine Nat.div_lt_of_lt_mul ?_
  rw [Nat.mul_comm]
  exact w.micros_lt

/-- The date of a wall time is one of the calendar. -/
theorem isValid_date : w.date.isValid = true := isValid_ofNumber w.div_dayMicros_lt

end WallTime

end Discography.Calendar
