import Discography.Failure
import Discography.Text.Numeral

/-!
# Pages of albums

A page is the window of a listing: how many albums to skip and how many to show. It is asked for by
two numbers in a query, its size and its number from 1 on.

* `Page.ofSizeAndNumber` does no checks; `Page.parse` does all of them, in a fixed order.
-/

set_option autoImplicit false

namespace Discography

open Discography.Text

/-- The greatest number of albums on a page. -/
def maxPageSize : Int := 50

/-- The least signed integer of 64 bits. -/
def int64Min : Int := -9223372036854775808

/-- The greatest signed integer of 64 bits. -/
def int64Max : Int := 9223372036854775807

/-- Whether an integer has 64 bits. -/
def fitsInt64 (n : Int) : Bool := decide (int64Min ≤ n ∧ n ≤ int64Max)

/-- A window of a listing. -/
structure Page where
  offset : Int
  limit : Int
  deriving DecidableEq, Repr

namespace Page

/-- The page of a size and a number that counts from 1. -/
def ofSizeAndNumber (size number : Int) : Page := ⟨size * (number - 1), size⟩

/-- The number of a query parameter: an optional sign and ASCII digits of a value with 64 bits.
Nothing is converted beyond the limit on digits. -/
def parseNumber (raw : String) : Except Failure (Option Int) :=
  let (negative, digits) := splitSign raw.toList
  if digits.isEmpty || !digits.all Char.isDigit then .ok none
  else if digitLimit < digits.length then .error (.tooManyDigits digits.length)
  else
    let magnitude := ofDigits 10 (digits.map fun c => c.toNat - '0'.toNat)
    let value : Int := if negative then -(magnitude : Int) else magnitude
    .ok (if fitsInt64 value then some value else none)

/-- A query parameter that has to be there and to be a number. -/
def required (missing invalid : String) (raw : Option String) : Except Failure Int :=
  match raw with
  | none => .error (.malformed missing)
  | some s =>
    match parseNumber s with
    | .error f => .error f
    | .ok none => .error (.malformed invalid)
    | .ok (some n) => .ok n

/-- The page that a size and a number stand for, if they are in range. -/
def checked (size number : Int) : Except Failure Page :=
  if size < 1 then .error (.malformed "page size is less than 1")
  else if maxPageSize < size then .error (.malformed "page size is greater than 50")
  else if number < 1 then .error (.malformed "page number is less than 1")
  else if int64Max < (ofSizeAndNumber size number).offset then
    .error (.malformed "page number is too large")
  else .ok (ofSizeAndNumber size number)

/-- The page of two query parameters, with the first of the checks that fails. -/
def parse (size number : Option String) : Except Failure Page :=
  match required "query parameter page_size is missing" "page size is not a valid number" size with
  | .error f => .error f
  | .ok s =>
    match required "query parameter page_number is missing" "page number is not a valid number"
        number with
    | .error f => .error f
    | .ok n => checked s n

theorem checked_eq_ok {size number : Int} {p : Page} (h : checked size number = .ok p) :
    p = ofSizeAndNumber size number ∧ 1 ≤ size ∧ size ≤ maxPageSize ∧ 1 ≤ number ∧
      p.offset ≤ int64Max := by
  unfold checked at h
  repeat' split at h
  all_goals try (simp at h; done)
  cases h
  exact ⟨rfl, by omega, by omega, by omega, by omega⟩

end Page

end Discography
