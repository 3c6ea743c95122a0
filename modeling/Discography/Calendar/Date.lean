/-!
# Dates and day numbers

Dates of the Gregorian calendar carried back to year 1, and their day numbers, which count from 0
on the first of January of year 1.

* `daysBeforeYear_yearOf_le`, `lt_daysBeforeYear_yearOf_succ` — `yearOf` is the year of a day.
* `number_ofNumber` — the date of a day number has that day number.
* `isValid_ofNumber` — it is a date of the calendar if the day number is below `dayLimit`.
-/

set_option autoImplicit false

namespace Discography.Calendar

/-- Whether a year has 366 days. -/
def isLeap (year : Nat) : Bool := year % 4 == 0 && (year % 100 != 0 || year % 400 == 0)

/-- The number of days of a year. -/
def yearLength (year : Nat) : Nat := if isLeap year then 366 else 365

/-- The number of days before the first of January of a year. -/
def daysBeforeYear (year : Nat) : Nat :=
  (year - 1) * 365 + (year - 1) / 4 - (year - 1) / 100 + (year - 1) / 400

/-- The lengths of the twelve months of a year. -/
def monthLengths (year : Nat) : List Nat :=
  [31, if isLeap year then 29 else 28, 31, 30, 31, 30, 31, 31, 30, 31, 30, 31]

/-- The days of spans that follow each other. -/
def total : List Nat → Nat
  | [] => 0
  | m :: ms => m + total ms

/-- The number of days of the calendar, which ends with year 9999. -/
def dayLimit : Nat := 3652059

example : dayLimit = daysBeforeYear 10000 := by decide

/-- A year, a month and a day of the month, each counted from 1. -/
structure Date where
  year : Nat
  month : Nat
  day : Nat
  deriving DecidableEq, Repr

namespace Date

/-- Whether the calendar has this date. -/
def isValid (d : Date) : Bool :=
  decide ((1 ≤ d.year ∧ d.year ≤ 9999) ∧ (1 ≤ d.month ∧ d.month ≤ 12) ∧
    1 ≤ d.day ∧ d.day ≤ (monthLengths d.year).getD (d.month - 1) 0)

/-- The number of days before a date. -/
def number (d : Date) : Nat :=
  daysBeforeYear d.year + total ((monthLengths d.year).take (d.month - 1)) + (d.day - 1)

end Date

/-- The year of a day: whole spans of 400, 100, 4 and 1 years are counted off, of which the last
span of 100 years and of 1 year may be a day longer. -/
def yearOf (n : Nat) : Nat :=
  let century := min (n % 146097 / 36524) 3
  let inCentury := n % 146097 - century * 36524
  400 * (n / 146097) + 100 * century + 4 * (inCentury / 1461) +
    min (inCentury % 1461 / 365) 3 + 1

/-- The days before a year that is given by whole spans of 400, 100, 4 and 1 years. -/
theorem daysBeforeYear_spans {a b c d : Nat} (hb : b ≤ 3) (hc : c ≤ 24) (hd : d ≤ 3) :
    daysBeforeYear (400 * a + 100 * b + 4 * c + d + 1) =
      146097 * a + 36524 * b + 1461 * c + 365 * d := by
  have h4 : (400 * a + 100 * b + 4 * c + d) / 4 = 100 * a + 25 * b + c := by omega
  have h100 : (400 * a + 100 * b + 4 * c + d) / 100 = 4 * a + b := by omega
  have h400 : (400 * a + 100 * b + 4 * c + d) / 400 = a := by omega
  simp only [daysBeforeYear, Nat.add_sub_cancel, h4, h100, h400]
  omega

/-- The spans of a day are within their bounds, and what is left over is less than a year. -/
theorem yearOf_spans (n : Nat) : ∃ a b c d e, yearOf n = 400 * a + 100 * b + 4 * c + d + 1 ∧
    n = 146097 * a + 36524 * b + 1461 * c + 365 * d + e ∧ b ≤ 3 ∧ c ≤ 24 ∧ d ≤ 3 ∧
    e ≤ 365 ∧ (e = 365 → d = 3 ∧ (c < 24 ∨ b = 3)) := by
  refine ⟨n / 146097, min (n % 146097 / 36524) 3,
    (n % 146097 - min (n % 146097 / 36524) 3 * 36524) / 1461,
    min ((n % 146097 - min (n % 146097 / 36524) 3 * 36524) % 1461 / 365) 3,
    (n % 146097 - min (n % 146097 / 36524) 3 * 36524) % 1461 -
      365 * min ((n % 146097 - min (n % 146097 / 36524) 3 * 36524) % 1461 / 365) 3,
    rfl, ?_⟩
  have hn := Nat.div_add_mod n 146097
  have hr := Nat.mod_lt n (show 146097 > 0 by decide)
  generalize n / 146097 = a at *
  generalize n % 146097 = r at *
  have hb : min (r / 36524) 3 ≤ 3 := Nat.min_le_right _ _
  have hs : min (r / 36524) 3 * 36524 ≤ r := by omega
  have ht : r - min (r / 36524) 3 * 36524 ≤ 36524 := by omega
  have hu : min (r / 36524) 3 < 3 → r - min (r / 36524) 3 * 36524 < 36524 := by omega
  generalize min (r / 36524) 3 = b at *
  generalize hx : r - b * 36524 = x at *
  have hxd := Nat.div_add_mod x 1461
  have hxr := Nat.mod_lt x (show 1461 > 0 by decide)
  generalize x / 1461 = c at *
  generalize x % 1461 = y at *
  have hd : min (y / 365) 3 ≤ 3 := Nat.min_le_right _ _
  have hy : 365 * min (y / 365) 3 ≤ y := by omega
  have hz : y - 365 * min (y / 365) 3 ≤ 365 := by omega
  have hw : y - 365 * min (y / 365) 3 = 365 → min (y / 365) 3 = 3 := by omega
  generalize min (y / 365) 3 = d at *
  omega

theorem daysBeforeYear_yearOf_le (n : Nat) : daysBeforeYear (yearOf n) ≤ n := by
  obtain ⟨a, b, c, d, e, hy, hn, hb, hc, hd, -, -⟩ := yearOf_spans n
  rw [hy, daysBeforeYear_spans hb hc hd]
  omega

theorem yearOf_pos (n : Nat) : 1 ≤ yearOf n := by
  simp only [yearOf]
  omega

theorem yearOf_le {n : Nat} (h : n < dayLimit) : yearOf n ≤ 9999 := by
  simp only [yearOf, dayLimit] at *
  omega

theorem daysBeforeYear_succ {year : Nat} (h : 1 ≤ year) :
    daysBeforeYear (year + 1) = daysBeforeYear year + yearLength year := by
  obtain ⟨p, rfl⟩ : ∃ p, year = p + 1 := ⟨year - 1, by omega⟩
  have h4 : (p + 1) / 4 = p / 4 + if (p + 1) % 4 = 0 then 1 else 0 := by split <;> omega
  have h100 : (p + 1) / 100 = p / 100 + if (p + 1) % 100 = 0 then 1 else 0 := by split <;> omega
  have h400 : (p + 1) / 400 = p / 400 + if (p + 1) % 400 = 0 then 1 else 0 := by split <;> omega
  have k100 : (p + 1) % 100 = 0 → (p + 1) % 4 = 0 := by omega
  have k400 : (p + 1) % 400 = 0 → (p + 1) % 100 = 0 := by omega
  have hle : p / 100 ≤ p / 4 := by omega
  simp only [daysBeforeYear, yearLength, isLeap, Nat.add_sub_cancel, h4, h100, h400]
  by_cases c4 : (p + 1) % 4 = 0
  · by_cases c100 : (p + 1) % 100 = 0
    · by_cases c400 : (p + 1) % 400 = 0
      · simp only [c4, c100, c400]
        simp only [if_true, beq_self_eq_true, bne_self_eq_false, Bool.true_and, Bool.false_or]
        omega
      · simp [c4, c100, c400]
        omega
    · have c400 : ¬ (p + 1) % 400 = 0 := fun hh => c100 (k400 hh)
      simp [c4, c100, c400]
      omega
  · have c100 : ¬ (p + 1) % 100 = 0 := fun hh => c4 (k100 hh)
    have c400 : ¬ (p + 1) % 400 = 0 := fun hh => c100 (k400 hh)
    simp [c4, c100, c400]
    omega

theorem lt_daysBeforeYear_yearOf_succ (n : Nat) : n < daysBeforeYear (yearOf n + 1) := by
  rw [daysBeforeYear_succ (yearOf_pos n)]
  obtain ⟨a, b, c, d, e, hy, hn, hb, hc, hd, he, hl⟩ := yearOf_spans n
  rw [hy, daysBeforeYear_spans hb hc hd]
  by_cases h365 : e = 365
  · obtain ⟨rfl, hcb⟩ := hl h365
    have : yearLength (400 * a + 100 * b + 4 * c + 3 + 1) = 366 := by
      have hleap : isLeap (400 * a + 100 * b + 4 * c + 3 + 1) = true := by
        simp only [isLeap, Bool.and_eq_true, Bool.or_eq_true, beq_iff_eq, bne_iff_ne]
        omega
      simp [yearLength, hleap]
    omega
  · have : 365 ≤ yearLength (400 * a + 100 * b + 4 * c + d + 1) := by
      unfold yearLength
      split <;> omega
    omega

/-- The number of whole spans before a day, and the days left over. -/
def locate : List Nat → Nat → Nat × Nat
  | [], n => (0, n)
  | m :: ms, n =>
    if n < m then (0, n) else ((locate ms (n - m)).1 + 1, (locate ms (n - m)).2)

theorem locate_sum (ms : List Nat) (n : Nat) :
    total (ms.take (locate ms n).1) + (locate ms n).2 = n := by
  induction ms generalizing n with
  | nil => simp [locate, total]
  | cons m ms ih =>
    unfold locate
    split
    · simp [total]
    · have := ih (n - m)
      simp only [List.take_succ_cons, total]
      omega

theorem locate_lt {ms : List Nat} {n : Nat} (h : n < total ms) :
    (locate ms n).1 < ms.length ∧ (locate ms n).2 < ms.getD (locate ms n).1 0 := by
  induction ms generalizing n with
  | nil => simp [total] at h
  | cons m ms ih =>
    unfold locate
    split
    · next hm => exact ⟨by simp, by simpa using hm⟩
    · next hm =>
      simp only [total] at h
      have := @ih (n - m) (by omega)
      simpa using this

/-- The date of a day number. -/
def Date.ofNumber (n : Nat) : Date :=
  let year := yearOf n
  let place := locate (monthLengths year) (n - daysBeforeYear year)
  ⟨year, place.1 + 1, place.2 + 1⟩

theorem number_ofNumber (n : Nat) : (Date.ofNumber n).number = n := by
  have hy := daysBeforeYear_yearOf_le n
  have hs := locate_sum (monthLengths (yearOf n)) (n - daysBeforeYear (yearOf n))
  simp only [Date.number, Date.ofNumber, Nat.add_sub_cancel]
  omega

theorem total_monthLengths (year : Nat) : total (monthLengths year) = yearLength year := by
  unfold monthLengths yearLength
  split <;> rfl

theorem isValid_ofNumber {n : Nat} (h : n < dayLimit) : (Date.ofNumber n).isValid = true := by
  have h1 := daysBeforeYear_yearOf_le n
  have h2 := lt_daysBeforeYear_yearOf_succ n
  rw [daysBeforeYear_succ (yearOf_pos n)] at h2
  have hl := @locate_lt (monthLengths (yearOf n)) (n - daysBeforeYear (yearOf n))
    (by rw [total_monthLengths]; omega)
  rw [show (monthLengths (yearOf n)).length = 12 from rfl] at hl
  have hp := yearOf_pos n
  have h9 := yearOf_le h
  refine decide_eq_true ⟨⟨hp, h9⟩, ⟨Nat.succ_pos _, hl.1⟩, Nat.succ_pos _, ?_⟩
  simp only [Date.ofNumber, Nat.add_sub_cancel]
  omega

end Discography.Calendar
