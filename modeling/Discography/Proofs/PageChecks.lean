import Mathlib.Algebra.Group.Int.Defs
import Discography.Proofs.Grammar
import Discography.Proofs.PageReading

/-!
# The checks of a page

Two parameters of a listing make up a page, or they are malformed with the message of the first of
eight checks that they violate. What a number is and what a check asks for is told without a reader.

* `Written`, `Number` — parameters that are there and are a number, and those of 64 bits.
* `Check` — the checks in their order, each with its message; `Check.Violated` says when it fails.
* `First` — the first of a list that has a property.
* `parse_exactly_checked` — which parameters make up which page, and which message the others get.
-/

set_option autoImplicit false

namespace Discography.Page

open Discography.Text
open Discography.Json (DigitRun valueOf signed)

/-! ## Numbers -/

/-- An optional sign and one ASCII digit or more, and the number that they are. -/
inductive Numeral : List Char → Int → Prop
  | unsigned {ds : List Char} (run : DigitRun ds) : Numeral ds (valueOf ds)
  | plus {ds : List Char} (run : DigitRun ds) : Numeral ('+' :: ds) (valueOf ds)
  | minus {ds : List Char} (run : DigitRun ds) : Numeral ('-' :: ds) (-(valueOf ds : Int))

/-- A parameter that is there and is the numeral of a number. -/
def Written (raw : Option String) (n : Int) : Prop :=
  ∃ text, raw = some text ∧ Numeral text.toList n

/-- A parameter that is there and is the numeral of a number of 64 bits. -/
structure Number (raw : Option String) (n : Int) : Prop where
  written : Written raw n
  least : -2 ^ 63 ≤ n
  greatest : n ≤ 2 ^ 63 - 1

/-- A parameter with no more digits than are converted, if it is there. -/
def Short (raw : Option String) : Prop :=
  ∀ text, raw = some text → text.toList.countP Char.isDigit ≤ 4300

/-- A numeral is told by its sign and the digits behind it. -/
theorem numeral_iff {s : List Char} {n : Int} :
    Numeral s n ↔ DigitRun (splitSign s).2 ∧
      n = signed (splitSign s).1 (valueOf (splitSign s).2) := by
  constructor
  · intro h
    cases h with
    | unsigned run =>
      have hminus : '-' ∉ s := fun h => absurd (run.isDigit _ h) (by decide)
      have hplus : '+' ∉ s := fun h => absurd (run.isDigit _ h) (by decide)
      rw [splitSign_eq_self hminus hplus]
      exact ⟨run, rfl⟩
    | plus run => exact ⟨run, rfl⟩
    | minus run => exact ⟨run, rfl⟩
  · rintro ⟨run, rfl⟩
    unfold splitSign at run ⊢
    split at run
    · exact .minus run
    · exact .plus run
    · exact .unsigned run

theorem Numeral.unique {s : List Char} {n m : Int} (h : Numeral s n) (h' : Numeral s m) : n = m :=
  (numeral_iff.1 h).2.trans (numeral_iff.1 h').2.symm

theorem fitsInt64_iff {n : Int} : fitsInt64 n = true ↔ -2 ^ 63 ≤ n ∧ n ≤ 2 ^ 63 - 1 :=
  decide_eq_true_iff

theorem number_some {text : String} {n : Int} :
    Number (some text) n ↔ Numeral text.toList n ∧ fitsInt64 n = true := by
  rw [fitsInt64_iff]
  constructor
  · rintro ⟨⟨_, htext, hn⟩, hleast, hgreatest⟩
    cases htext
    exact ⟨hn, hleast, hgreatest⟩
  · rintro ⟨hn, hleast, hgreatest⟩
    exact ⟨⟨text, rfl, hn⟩, hleast, hgreatest⟩

/-! ## Reading a parameter -/

/-- A short text is not too long to be converted. -/
theorem not_overlong {text : String} (h : Short (some text)) (count : Nat) :
    ¬ Overlong text count := by
  rintro ⟨sign, digits, hraw, -, hdigits, rfl, hlong⟩
  have hcount := h text rfl
  rw [hraw, List.countP_append, List.countP_eq_length.2 hdigits] at hcount
  unfold digitLimit at hlong
  omega

/-- What is tested before a text is converted. -/
theorem isRun_iff {ds : List Char} :
    (ds.isEmpty || !ds.all Char.isDigit) = false ↔ DigitRun ds := by
  rw [Bool.or_eq_false_iff, List.isEmpty_eq_false_iff, Bool.not_eq_false', List.all_eq_true]
  exact ⟨fun ⟨hne, hds⟩ => ⟨hne, hds⟩, fun run => ⟨run.ne_nil, run.isDigit⟩⟩

/-- A short text is read as a number exactly if it is one of 64 bits. -/
theorem parseNumber_eq_some_iff {text : String} (h : Short (some text)) {n : Int} :
    parseNumber text = .ok (some n) ↔ Number (some text) n := by
  have hshort := not_overlong h
  simp only [overlong_iff] at hshort
  rw [number_some, numeral_iff]
  unfold parseNumber
  generalize splitSign text.toList = parts at hshort ⊢
  obtain ⟨negative, digits⟩ := parts
  dsimp only at hshort ⊢
  rw [ofDigits_ascii]
  by_cases hrun : DigitRun digits
  · have hlength : ¬ digitLimit < digits.length :=
      fun hlong => hshort _ ⟨hrun.isDigit, rfl, hlong⟩
    have hvalue : (if negative = true then -(Nat.ofDigitChars 10 digits 0 : Int)
        else Nat.ofDigitChars 10 digits 0) = signed negative (valueOf digits) := rfl
    rw [isRun_iff.2 hrun, if_neg Bool.false_ne_true, if_neg hlength, hvalue]
    constructor
    · intro hread
      split at hread
      · next hfits =>
        cases hread
        exact ⟨⟨hrun, rfl⟩, hfits⟩
      · cases hread
    · rintro ⟨⟨-, rfl⟩, hfits⟩
      rw [if_pos hfits]
  · have htest : (digits.isEmpty || !digits.all Char.isDigit) = true := by
      rw [← Bool.not_eq_false, isRun_iff]
      exact hrun
    rw [if_pos htest]
    constructor
    · intro hread
      cases hread
    · rintro ⟨⟨hdigits, -⟩, -⟩
      exact absurd hdigits hrun

/-- What a short parameter is read as: it is missing, or it is no number, or it is one. -/
theorem required_of_short (missing invalid : String) {raw : Option String} (h : Short raw) :
    (raw = none ∧ required missing invalid raw = .error (.malformed missing)) ∨
      ((raw ≠ none ∧ ∀ n, ¬ Number raw n) ∧
        required missing invalid raw = .error (.malformed invalid)) ∨
      ∃ n, Number raw n ∧ required missing invalid raw = .ok n := by
  cases raw with
  | none => exact .inl ⟨rfl, rfl⟩
  | some text =>
    right
    cases hread : parseNumber text with
    | error f =>
      obtain ⟨count, hover, -⟩ := parseNumber_eq_error_iff.1 hread
      exact absurd hover (not_overlong h count)
    | ok found =>
      cases found with
      | none =>
        refine .inl ⟨⟨nofun, fun n hn => ?_⟩, by simp only [required, hread]⟩
        rw [(parseNumber_eq_some_iff h).2 hn] at hread
        cases hread
      | some n =>
        exact .inr ⟨n, (parseNumber_eq_some_iff h).1 hread, by simp only [required, hread]⟩

/-! ## The checks -/

/-- The checks of the two parameters of a page. -/
inductive Check
  | sizeMissing
  | sizeInvalid
  | numberMissing
  | numberInvalid
  | sizeLow
  | sizeHigh
  | numberLow
  | offsetHigh

namespace Check

/-- The order in which the checks are made: all of the texts come before those of the values. -/
def order : List Check :=
  [sizeMissing, sizeInvalid, numberMissing, numberInvalid, sizeLow, sizeHigh, numberLow, offsetHigh]

/-- What a client is told if a check fails. -/
def message : Check → String
  | sizeMissing => "query parameter page_size is missing"
  | sizeInvalid => "page size is not a valid number"
  | numberMissing => "query parameter page_number is missing"
  | numberInvalid => "page number is not a valid number"
  | sizeLow => "page size is less than 1"
  | sizeHigh => "page size is greater than 50"
  | numberLow => "page number is less than 1"
  | offsetHigh => "page number is too large"

/-- When a check fails, whether or not another one does. -/
def Violated (size number : Option String) : Check → Prop
  | sizeMissing => size = none
  | sizeInvalid => size ≠ none ∧ ∀ s, ¬ Number size s
  | numberMissing => number = none
  | numberInvalid => number ≠ none ∧ ∀ n, ¬ Number number n
  | sizeLow => ∃ s, Number size s ∧ s < 1
  | sizeHigh => ∃ s, Number size s ∧ 50 < s
  | numberLow => ∃ n, Number number n ∧ n < 1
  | offsetHigh => ∃ s, Number size s ∧ ∃ n, Number number n ∧ 2 ^ 63 - 1 < s * (n - 1)

end Check

/-- The first of a list that has a property. -/
inductive First {α : Type} (P : α → Prop) : List α → α → Prop
  | here {x : α} {l : List α} (holds : P x) : First P (x :: l) x
  | later {x y : α} {l : List α} (fails : ¬ P x) (rest : First P l y) : First P (x :: l) y

section First

variable {α : Type} {P : α → Prop} {l : List α} {x y : α}

theorem First.holds (h : First P l x) : P x := by
  induction h with
  | here holds => exact holds
  | later _ _ ih => exact ih

theorem First.unique (h : First P l x) (h' : First P l y) : x = y := by
  induction h with
  | here holds =>
    cases h' with
    | here => rfl
    | later fails _ => exact absurd holds fails
  | later fails _ ih =>
    cases h' with
    | here holds => exact absurd holds fails
    | later _ rest => exact ih rest

end First

/-- A size and a number of a page that exists. -/
structure InRange (s n : Int) : Prop where
  size_low : 1 ≤ s
  size_high : s ≤ 50
  number_low : 1 ≤ n
  number_high : n ≤ 2 ^ 63 - 1
  offset_high : s * (n - 1) ≤ 2 ^ 63 - 1

theorem Written.unique {raw : Option String} {n m : Int} (h : Written raw n) (h' : Written raw m) :
    n = m := by
  obtain ⟨text, rfl, hn⟩ := h
  obtain ⟨_, htext, hm⟩ := h'
  cases htext
  exact hn.unique hm

theorem Number.ne_none {raw : Option String} {n : Int} (h : Number raw n) : raw ≠ none := by
  obtain ⟨text, rfl, -⟩ := h.written
  exact nofun

/-- What is asked of the number of a parameter is asked of the one number that it is. -/
theorem Number.exists_iff {raw : Option String} {n : Int} {P : Int → Prop} (h : Number raw n) :
    (∃ m, Number raw m ∧ P m) ↔ P n := by
  constructor
  · rintro ⟨m, hm, holds⟩
    rwa [h.written.unique hm.written]
  · intro holds
    exact ⟨n, h, holds⟩

section Numbers

variable {size number : Option String} {s n : Int} (hs : Number size s) (hn : Number number n)

include hs hn

/-- Parameters that are numbers violate none of the checks of texts. -/
theorem First.of_numbers {c : Check} {rest : List Check}
    (h : First (Check.Violated size number) rest c) :
    First (Check.Violated size number)
      (.sizeMissing :: .sizeInvalid :: .numberMissing :: .numberInvalid :: rest) c :=
  .later hs.ne_none (.later (fun invalid => invalid.2 s hs)
    (.later hn.ne_none (.later (fun invalid => invalid.2 n hn) h)))

/-- What the checks of values come to for two numbers. -/
theorem violated_values_iff :
    (Check.sizeLow.Violated size number ↔ s < 1) ∧
      (Check.sizeHigh.Violated size number ↔ 50 < s) ∧
      (Check.numberLow.Violated size number ↔ n < 1) ∧
      (Check.offsetHigh.Violated size number ↔ 2 ^ 63 - 1 < s * (n - 1)) := by
  refine ⟨hs.exists_iff, hs.exists_iff, hn.exists_iff, ?_⟩
  calc Check.offsetHigh.Violated size number
      ↔ ∃ m, Number number m ∧ 2 ^ 63 - 1 < s * (m - 1) := hs.exists_iff
    _ ↔ 2 ^ 63 - 1 < s * (n - 1) := hn.exists_iff

/-- Parameters that are numbers in range violate no check. -/
theorem not_violated (h : InRange s n) (c : Check) : ¬ c.Violated size number := by
  obtain ⟨hsizeLow, hsizeHigh, hnumberLow, hoffsetHigh⟩ := violated_values_iff hs hn
  cases c with
  | sizeMissing => exact hs.ne_none
  | sizeInvalid => exact fun invalid => invalid.2 s hs
  | numberMissing => exact hn.ne_none
  | numberInvalid => exact fun invalid => invalid.2 n hn
  | sizeLow => exact mt hsizeLow.1 (Int.not_lt.2 h.size_low)
  | sizeHigh => exact mt hsizeHigh.1 (Int.not_lt.2 h.size_high)
  | numberLow => exact mt hnumberLow.1 (Int.not_lt.2 h.number_low)
  | offsetHigh => exact mt hoffsetHigh.1 (Int.not_lt.2 h.offset_high)

/-- Two numbers make up a page, or a check of values is the first that they violate. -/
theorem checked_of_numbers :
    (InRange s n ∧ checked s n = .ok ⟨s * (n - 1), s⟩) ∨
      ∃ c, First (Check.Violated size number) Check.order c ∧
        checked s n = .error (.malformed c.message) := by
  obtain ⟨hsizeLow, hsizeHigh, hnumberLow, hoffsetHigh⟩ := violated_values_iff hs hn
  unfold checked
  by_cases low : s < 1
  · rw [if_pos low]
    exact .inr ⟨.sizeLow, .of_numbers hs hn (.here (hsizeLow.2 low)), rfl⟩
  have low' := mt hsizeLow.1 low
  rw [if_neg low]
  by_cases high : maxPageSize < s
  · rw [if_pos high]
    exact .inr ⟨.sizeHigh, .of_numbers hs hn (.later low' (.here (hsizeHigh.2 high))), rfl⟩
  have high' := mt hsizeHigh.1 high
  rw [if_neg high]
  by_cases first : n < 1
  · rw [if_pos first]
    exact .inr ⟨.numberLow,
      .of_numbers hs hn (.later low' (.later high' (.here (hnumberLow.2 first)))), rfl⟩
  have first' := mt hnumberLow.1 first
  rw [if_neg first]
  by_cases far : int64Max < (ofSizeAndNumber s n).offset
  · rw [if_pos far]
    exact .inr ⟨.offsetHigh, .of_numbers hs hn
      (.later low' (.later high' (.later first' (.here (hoffsetHigh.2 far))))), rfl⟩
  rw [if_neg far]
  exact .inl ⟨⟨Int.not_lt.1 low, Int.not_lt.1 high, Int.not_lt.1 first, hn.greatest,
    Int.not_lt.1 far⟩, rfl⟩

end Numbers

/-! ## Reading a page -/

/-- Two short parameters are numbers that make up a page, or they violate a first check. -/
theorem parse_of_short {size number : Option String} (hsize : Short size) (hnumber : Short number) :
    (∃ s n, Number size s ∧ Number number n ∧ InRange s n ∧
        parse size number = .ok ⟨s * (n - 1), s⟩) ∨
      ∃ c, First (Check.Violated size number) Check.order c ∧
        parse size number = .error (.malformed c.message) := by
  unfold parse
  rcases required_of_short "query parameter page_size is missing" "page size is not a valid number"
    hsize with ⟨hmissing, hread⟩ | ⟨hinvalid, hread⟩ | ⟨s, hs, hread⟩
  · rw [hread]
    exact .inr ⟨.sizeMissing, .here hmissing, rfl⟩
  · rw [hread]
    exact .inr ⟨.sizeInvalid, .later hinvalid.1 (.here hinvalid), rfl⟩
  · rw [hread]
    have hsizeInvalid : ¬ Check.sizeInvalid.Violated size number := fun invalid => invalid.2 s hs
    rcases required_of_short "query parameter page_number is missing"
        "page number is not a valid number" hnumber
      with ⟨hmissing, hread⟩ | ⟨hinvalid, hread⟩ | ⟨n, hn, hread⟩
    · rw [hread]
      exact .inr ⟨.numberMissing, .later hs.ne_none (.later hsizeInvalid (.here hmissing)), rfl⟩
    · rw [hread]
      exact .inr ⟨.numberInvalid, .later hs.ne_none (.later hsizeInvalid
        (.later hinvalid.1 (.here hinvalid))), rfl⟩
    · rw [hread]
      rcases checked_of_numbers hs hn with ⟨hrange, hchecked⟩ | hviolated
      · exact .inl ⟨s, n, hs, hn, hrange, hchecked⟩
      · exact .inr hviolated

/-- A number of a page that exists has 64 bits, as has its size. -/
theorem InRange.numbers {size number : Option String} {s n : Int} (h : InRange s n)
    (hs : Written size s) (hn : Written number n) : Number size s ∧ Number number n := by
  obtain ⟨hlow, hhigh, hfirst, hlast, -⟩ := h
  exact ⟨⟨hs, by omega, by omega⟩, ⟨hn, by omega, hlast⟩⟩

/-- **A page is read exactly if its size and its number are numerals in range**, its offset is then
a natural number of 63 bits, and otherwise the parameters are malformed with the message of the
first check that they violate. -/
theorem parse_exactly_checked {size number : Option String} (hsize : Short size)
    (hnumber : Short number) :
    (∀ p, parse size number = .ok p ↔
      ∃ s n, Written size s ∧ Written number n ∧ InRange s n ∧ p = ⟨s * (n - 1), s⟩) ∧
    (∀ p, parse size number = .ok p → 0 ≤ p.offset ∧ p.offset ≤ 2 ^ 63 - 1) ∧
    (∀ f, parse size number = .error f ↔
      ∃ c, First (Check.Violated size number) Check.order c ∧ f = .malformed c.message) := by
  have houtcome := parse_of_short hsize hnumber
  refine ⟨fun p => ⟨fun h => ?_, ?_⟩, fun p h => ?_, fun f => ⟨fun h => ?_, ?_⟩⟩
  · rcases houtcome with ⟨s, n, hs, hn, hrange, hparse⟩ | ⟨c, -, hparse⟩
    · rw [hparse] at h
      cases h
      exact ⟨s, n, hs.written, hn.written, hrange, rfl⟩
    · rw [hparse] at h
      cases h
  · rintro ⟨s, n, hs, hn, hrange, rfl⟩
    obtain ⟨hs', hn'⟩ := hrange.numbers hs hn
    rcases houtcome with ⟨s', n', hs'', hn'', -, hparse⟩ | ⟨c, hfirst, -⟩
    · rwa [hs.unique hs''.written, hn.unique hn''.written]
    · exact absurd hfirst.holds (not_violated hs' hn' hrange c)
  · obtain ⟨hstart, hend, -, -⟩ := bounds_of_parse h
    exact ⟨hstart, hend⟩
  · rcases houtcome with ⟨s, n, -, -, -, hparse⟩ | ⟨c, hfirst, hparse⟩
    · rw [hparse] at h
      cases h
    · rw [hparse] at h
      cases h
      exact ⟨c, hfirst, rfl⟩
  · rintro ⟨c, hfirst, rfl⟩
    rcases houtcome with ⟨s, n, hs, hn, hrange, -⟩ | ⟨c', hfirst', hparse⟩
    · exact absurd hfirst.holds (not_violated hs hn hrange c)
    · rw [hfirst.unique hfirst', hparse]

/-- A size and a number with a plus sign and leading zeros make up a page. A size that is too high
comes before a number that is too low. -/
theorem parse_exactly_checked_signed :
    (Short (some "+050") ∧ Short (some "03") ∧
      parse (some "+050") (some "03") = .ok ⟨100, 50⟩) ∧
    Short (some "051") ∧ Short (some "-0") ∧
      parse (some "051") (some "-0") = .error (.malformed "page size is greater than 50") := by
  have h050 : Short (some "+050") := fun _ htext => by
    cases htext
    decide
  have h03 : Short (some "03") := fun _ htext => by
    cases htext
    decide
  have h051 : Short (some "051") := fun _ htext => by
    cases htext
    decide
  have h0 : Short (some "-0") := fun _ htext => by
    cases htext
    decide
  have hrun (text : String) (hne : text.toList ≠ []) (hall : text.toList.all Char.isDigit = true) :
      DigitRun text.toList := ⟨hne, List.all_eq_true.1 hall⟩
  have hsize : Written (some "+050") 50 := ⟨_, rfl, .plus (hrun "050" (by decide) rfl)⟩
  have hnumber : Written (some "03") 3 := ⟨_, rfl, .unsigned (hrun "03" (by decide) rfl)⟩
  have hhigh : Number (some "051") 51 :=
    ⟨⟨_, rfl, .unsigned (hrun "051" (by decide) rfl)⟩, by decide, by decide⟩
  have hlow : Number (some "-0") 0 :=
    ⟨⟨_, rfl, .minus (hrun "0" (by decide) rfl)⟩, by decide, by decide⟩
  obtain ⟨hsizeLow, hsizeHigh, -, -⟩ := violated_values_iff hhigh hlow
  have hfirst : First (Check.Violated (some "051") (some "-0")) Check.order .sizeHigh :=
    .of_numbers hhigh hlow (.later (mt hsizeLow.1 (by decide)) (.here (hsizeHigh.2 (by decide))))
  refine ⟨⟨h050, h03, ?_⟩, h051, h0, ?_⟩
  · exact ((parse_exactly_checked h050 h03).1 _).2
      ⟨50, 3, hsize, hnumber, ⟨by decide, by decide, by decide, by decide, by decide⟩, rfl⟩
  · exact ((parse_exactly_checked h051 h0).2.2 _).2 ⟨.sizeHigh, hfirst, rfl⟩

end Discography.Page
