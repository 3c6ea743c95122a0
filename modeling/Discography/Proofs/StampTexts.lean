import Discography.Calendar.Written
import Discography.Proofs.DayCount
import Discography.Proofs.Queries

/-!
# Written stamps are read back

The two written forms of a stamp are read by one reader. The form with the offset in full loses
nothing. The form with the offset cut to minutes loses nothing where the offset is a whole number of
minutes, and none at all is written as a letter.

* `fixed?_padded` — a number with leading zeros is read back up to its width.
* `date?_text`, `clock?_text`, `offset?_fullText` — the parts of a stamp are read back.
* `Stamp.read?_fullText` — so is a stamp with its offset in full.
* `Stamp.read?_briefText` — and one with its offset in minutes, if it has one in minutes.
-/

set_option autoImplicit false

namespace Discography.Calendar

open Discography.Text

/-! ## Numbers of a fixed width -/

theorem toList_padded {width n : Nat} :
    (padded width n).toList =
      List.replicate (width - (decimal n).toList.length) '0' ++ (decimal n).toList := by
  simp [padded, decimal]

theorem length_padded {width n : Nat} (hw : 0 < width) (h : n < 10 ^ width) :
    (padded width n).toList.length = width := by
  have hlen : (decimal n).toList.length ≤ width := by
    rw [decimal, String.toList_ofList]
    exact (Nat.length_toDigits_le_iff (by decide) hw).2 h
  rw [toList_padded, List.length_append, List.length_replicate]
  omega

theorem isDigit_of_mem_padded {width n : Nat} {c : Char} (h : c ∈ (padded width n).toList) :
    c.isDigit = true := by
  rw [toList_padded] at h
  rcases List.mem_append.1 h with h | h
  · rw [List.eq_of_mem_replicate h]
    decide
  · exact isDigit_of_mem_decimal h

theorem ofDigits_padded (width n : Nat) :
    ofDigits 10 ((padded width n).toList.map fun c => c.toNat - '0'.toNat) = n := by
  have hzeros (k : Nat) (ds : List Nat) :
      ofDigits 10 (List.replicate k 0 ++ ds) = ofDigits 10 ds := by
    induction k with
    | zero => rfl
    | succ k ih => rw [← ih, List.replicate_succ, List.cons_append]; rfl
  rw [toList_padded, List.map_append, List.map_replicate]
  exact (hzeros _ _).trans (ofDigits_decimal n)

/-- A number with leading zeros is read back, and what follows it is left. -/
theorem fixed?_padded {width n : Nat} (hw : 0 < width) (h : n < 10 ^ width) (r : List Char) :
    fixed? width ((padded width n).toList ++ r) = some (n, r) := by
  have hlen := length_padded hw h
  have htake : ((padded width n).toList ++ r).take width = (padded width n).toList := by
    rw [List.take_append_of_le_length (Nat.le_of_eq hlen.symm)]
    exact List.take_of_length_le (Nat.le_of_eq hlen)
  have hdrop : ((padded width n).toList ++ r).drop width = r := by
    rw [List.drop_append_of_le_length (Nat.le_of_eq hlen.symm),
      List.drop_of_length_le (Nat.le_of_eq hlen)]
    rfl
  have hall : (padded width n).toList.all Char.isDigit = true :=
    List.all_eq_true.2 fun c hc => isDigit_of_mem_padded hc
  unfold fixed?
  simp only [htake, hdrop]
  rw [if_pos ⟨hlen, hall⟩, ofDigits_padded]

theorem fixed?_two {n : Nat} (h : n < 100) (r : List Char) :
    fixed? 2 ((padded 2 n).toList ++ r) = some (n, r) := fixed?_padded (by decide) h r

theorem mark?_cons (c : Char) (r : List Char) : mark? c (c :: r) = some r := if_pos rfl

/-! ## Dates and times of day -/

theorem date?_text {d : Date} (h : d.isValid = true) (r : List Char) :
    date? (d.text.toList ++ r) = some (d, r) := by
  obtain ⟨⟨hmonth, hday⟩, hyear⟩ := Date.isValid_iff.1 h
  have hlength := monthLength_le d.year d.month
  simp only [Date.toDay, Day.InRange] at hyear hmonth hday
  have htext : d.text.toList ++ r = (padded 4 d.year).toList ++
      '-' :: ((padded 2 d.month).toList ++ '-' :: ((padded 2 d.day).toList ++ r)) := by
    simp [Date.text]
  rw [htext, date?, fixed?_padded (by decide) (by omega)]
  simp only [bind, Option.bind_some, mark?_cons]
  rw [fixed?_two (by omega)]
  simp only [Option.bind_some, mark?_cons]
  rw [fixed?_two (by omega)]
  simp only [Option.bind_some, h, if_true]

/-- A fraction is read back in front of anything but a point. -/
theorem fractionMicros?_text {n : Nat} (h : n < 1000000) {r : List Char}
    (hr : r.head? ≠ some '.') : fractionMicros? ((fractionText n).toList ++ r) = some (n, r) := by
  unfold fractionText
  split
  · next hn =>
    subst hn
    show fractionMicros? r = some (0, r)
    unfold fractionMicros?
    split
    · exact absurd rfl hr
    · rfl
  · have htext : ("." ++ padded 6 n).toList ++ r = '.' :: ((padded 6 n).toList ++ r) := by simp
    have hdigits := fixed?_padded (show 0 < 6 by decide) (show n < 10 ^ 6 from h) r
    rw [htext]
    exact hdigits

theorem clock?_text {t : Nat} (h : t < dayMicros) {r : List Char} (hr : r.head? ≠ some '.') :
    clock? ((clockText (t / 1000000)).toList ++ ((fractionText (t % 1000000)).toList ++ r)) =
      some (t, r) := by
  unfold dayMicros at h
  generalize hs : t / 1000000 = s
  generalize hf : t % 1000000 = f
  have htext (u : List Char) : (clockText s).toList ++ u = (padded 2 (s / 3600)).toList ++
      ':' :: ((padded 2 (s / 60 % 60)).toList ++ ':' :: ((padded 2 (s % 60)).toList ++ u)) := by
    simp [clockText]
  rw [htext, clock?, fixed?_two (by omega)]
  simp only [bind, Option.bind_some, mark?_cons]
  rw [fixed?_two (by omega)]
  simp only [Option.bind_some, mark?_cons]
  rw [fixed?_two (by omega)]
  simp only [Option.bind_some]
  rw [fractionMicros?_text (by omega) hr]
  simp only [Option.bind_some, clockMicros]
  rw [if_pos (by omega)]
  have ht : (s / 3600 * 3600 + s / 60 % 60 * 60 + s % 60) * 1000000 + f = t := by omega
  rw [ht]

/-! ## Offsets -/

namespace Offset

variable (o : Offset)

/-- What stands after hours and minutes of an offset. -/
theorem offsetTail?_text {seconds micros : Nat} (hs : seconds < 60) (hm : micros < 1000000) :
    offsetTail? (if seconds = 0 ∧ micros = 0 then "" else
        ":" ++ padded 2 seconds ++ fractionText micros).toList =
      some (seconds * 1000000 + micros) := by
  split
  · next h =>
    obtain ⟨rfl, rfl⟩ := h
    rfl
  · have htext : (":" ++ padded 2 seconds ++ fractionText micros).toList =
        ':' :: ((padded 2 seconds).toList ++ ((fractionText micros).toList ++ [])) := by simp
    rw [htext, offsetTail?, fixed?_two (by omega)]
    simp only [bind, Option.bind_some]
    rw [fractionMicros?_text hm (by decide)]
    simp [hs]

/-- An offset in full without its sign. -/
def spanText : String :=
  let seconds := o.micros.natAbs / 1000000
  padded 2 (seconds / 3600) ++ ":" ++ padded 2 (seconds / 60 % 60) ++
    (if seconds % 60 = 0 ∧ o.micros.natAbs % 1000000 = 0 then ""
      else ":" ++ padded 2 (seconds % 60) ++ fractionText (o.micros.natAbs % 1000000))

theorem fullText_eq : o.fullText = o.sign ++ o.spanText := by
  simp [fullText, minuteText, spanText, String.append_assoc]

theorem offsetSpan?_spanText : offsetSpan? o.spanText.toList = some o.micros.natAbs := by
  have hbounded := o.bounded
  unfold dayMicros at hbounded
  generalize hn : o.micros.natAbs = n at hbounded
  have htext : o.spanText.toList = (padded 2 (n / 1000000 / 3600)).toList ++
      ':' :: ((padded 2 (n / 1000000 / 60 % 60)).toList ++
        (if n / 1000000 % 60 = 0 ∧ n % 1000000 = 0 then ""
          else ":" ++ padded 2 (n / 1000000 % 60) ++ fractionText (n % 1000000)).toList) := by
    simp [spanText, hn]
  rw [htext, offsetSpan?, fixed?_two (by omega)]
  simp only [bind, Option.bind_some, mark?_cons]
  rw [fixed?_two (by omega)]
  simp only [Option.bind_some]
  rw [offsetTail?_text (by omega) (by omega)]
  simp only [Option.bind_some, clockMicros]
  have hspan : (n / 1000000 / 3600 * 3600 + n / 1000000 / 60 % 60 * 60 + 0) * 1000000 +
      (n / 1000000 % 60 * 1000000 + n % 1000000) = n := by omega
  rw [if_pos (by omega), hspan]

theorem ofMicros?_micros : ofMicros? o.micros = some o := dif_pos o.bounded

/-- **An offset in full is read back.** -/
theorem offset?_fullText : offset? o.fullText.toList = some (some o) := by
  rw [fullText_eq, String.toList_append, sign]
  split
  · next hneg =>
    have hmicros : -(o.micros.natAbs : Int) = o.micros := by omega
    show ((offsetSpan? o.spanText.toList).bind fun n => ofMicros? (-n)).map some = _
    rw [offsetSpan?_spanText, Option.bind_some, hmicros, ofMicros?_micros]
    rfl
  · next hpos =>
    have hmicros : (o.micros.natAbs : Int) = o.micros := by omega
    show ((offsetSpan? o.spanText.toList).bind fun n => ofMicros? n).map some = _
    rw [offsetSpan?_spanText, Option.bind_some, hmicros, ofMicros?_micros]
    rfl

/-- An offset in full begins with its sign. -/
theorem head?_fullText : o.fullText.toList.head? ≠ some '.' := by
  rw [fullText_eq, String.toList_append, sign]
  split <;> simp

end Offset

/-! ## Stamps -/

namespace Stamp

/-- A wall time with any offset behind it is read back. -/
theorem read?_wall (w : WallTime) {offset : Option Offset} (text : String)
    (hread : offset? text.toList = some offset) (hhead : text.toList.head? ≠ some '.') :
    read? (w.text "T" ++ text) = some ⟨w, offset⟩ := by
  have htext : (w.text "T" ++ text).toList = w.date.text.toList ++
      'T' :: ((clockText (w.timeOfDay / 1000000)).toList ++
        ((fractionText (w.timeOfDay % 1000000)).toList ++ text.toList)) := by
    simp [WallTime.text]
  have hday : w.date.number = w.micros / dayMicros := number_ofNumber _
  have hmicros : w.date.number * dayMicros + w.timeOfDay = w.micros := by
    rw [hday, WallTime.timeOfDay, Nat.mul_comm]
    exact Nat.div_add_mod _ _
  rw [read?, htext, date?_text w.isValid_date]
  simp only [bind, Option.bind_some, mark?_cons]
  rw [clock?_text (t := w.timeOfDay) (Nat.mod_lt _ (by decide)) hhead]
  simp only [Option.bind_some, hread, hmicros]
  rw [WallTime.ofMicros?_eq_some_iff.2 rfl]
  rfl

/-- **A stamp with its offset in full is read back.** -/
theorem read?_fullText (s : Stamp) : read? s.fullText = some s := by
  obtain ⟨w, offset⟩ := s
  cases offset with
  | none => exact read?_wall w "" rfl (by decide)
  | some o => exact read?_wall w _ o.offset?_fullText o.head?_fullText

/-- Whether a stamp has no offset, or one of a whole number of minutes. -/
def InMinutes (s : Stamp) : Prop := ∀ o ∈ s.offset, o.micros % 60000000 = 0

/-- An offset of a whole number of minutes loses nothing by being cut to minutes. -/
theorem minuteText_eq {o : Offset} (h : o.micros % 60000000 = 0) : o.minuteText = o.fullText := by
  have hseconds : o.micros.natAbs / 1000000 % 60 = 0 := by omega
  have hmicros : o.micros.natAbs % 1000000 = 0 := by omega
  simp [Offset.fullText, hseconds, hmicros]

/-- **A stamp with its offset in minutes is read back**, if it is a whole number of them or none. -/
theorem read?_briefText {s : Stamp} (h : s.InMinutes) : read? s.briefText = some s := by
  obtain ⟨w, offset⟩ := s
  cases offset with
  | none => exact read?_wall w "" rfl (by decide)
  | some o =>
    show read? (w.text "T" ++ o.briefText) = _
    unfold Offset.briefText
    split
    · next hzero =>
      have hutc : o = .utc := by
        cases o
        simp only [Offset.utc, Offset.mk.injEq]
        exact hzero
      rw [hutc]
      exact read?_wall w "Z" rfl (by decide)
    · rw [minuteText_eq (h o rfl)]
      exact read?_wall w _ o.offset?_fullText o.head?_fullText

end Stamp

end Discography.Calendar
