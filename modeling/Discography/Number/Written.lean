import Discography.Number.Binary64
import Discography.Text.Digit

/-!
# Written forms of floating-point numbers

Two ways to write a number of the 64-bit format in base ten.

* The shortest form has the fewest digits that read back as the number, and of those the digits
  nearest to it. It is positional for magnitudes from `10 ^ -4` up to `10 ^ 16`.
* A form with a given number of places is the exact value rounded to that many, a tie to the even
  digit: positional, with an exponent, or whichever of the two suits the magnitude.
-/

set_option autoImplicit false

namespace Discography.Number

open Discography.Text

/-- The digits `0.d₁d₂… · 10 ^ point` of a positive number. -/
structure Digits where
  digits : List Char
  point : Int
  deriving DecidableEq, Repr

/-- A ratio times a power of ten. -/
def scaled (r : Nat × Nat) (power : Int) : Nat × Nat :=
  if power < 0 then (r.1, r.2 * Nat.pow 10 power.natAbs) else (r.1 * Nat.pow 10 power.natAbs, r.2)

/-- The greatest power of ten that is not above a positive ratio, counted down from `power` within
`fuel` steps. -/
def decimalMagnitude (r : Nat × Nat) : Nat → Int → Int
  | 0, power => power
  | fuel + 1, power =>
    let s := scaled r (-power)
    if s.2 ≤ s.1 then power else decimalMagnitude r fuel (power - 1)

/-- The exponent of the leading digit of a positive ratio of the 64-bit format. -/
def leadingExponent (r : Nat × Nat) : Int :=
  let binary : Int := (Nat.log2 r.1 : Int) - (Nat.log2 r.2 : Int)
  decimalMagnitude r 4 (Int.fdiv (binary * 30103) 100000 + 2)

/-- The two neighbours of a ratio among the multiples of `10 ^ power` that read back as the given
number, the nearer first; a tie goes to the even one. -/
def readBack (r : Nat × Nat) (x : Binary64) (power : Int) : Option Nat :=
  let s := scaled r (-power)
  let low := s.1 / s.2
  let reads := fun n : Nat =>
    let t := scaled (n, 1) power
    Binary64.ofRatio false t.1 t.2 == x
  let nearLow := 2 * (s.1 % s.2) < s.2 || (2 * (s.1 % s.2) == s.2 && low % 2 == 0)
  let (first, second) := if nearLow then (low, low + 1) else (low + 1, low)
  if first != 0 && reads first then some first
  else if second != 0 && reads second then some second
  else none

/-- The first power of ten, from coarse to fine, at which a multiple reads back. -/
def shortestFrom (r : Nat × Nat) (x : Binary64) : Nat → Int → Nat × Int
  | 0, power => (0, power)
  | fuel + 1, power =>
    match readBack r x power with
    | some n => (n, power)
    | none => shortestFrom r x fuel (power - 1)

/-- The fewest digits that read back as a positive number. -/
def shortestDigits (significand : Nat) (exponent : Int) : Digits :=
  let r := Binary64.ratio significand exponent
  let (n, power) := shortestFrom r (.finite false significand exponent) 20 (leadingExponent r)
  let all := Nat.toDigits 10 n
  let kept := trimRight (· == '0') all
  ⟨kept, all.length + power⟩
where
  trimRight (p : Char → Bool) (s : List Char) : List Char := (s.reverse.dropWhile p).reverse

/-- An exponent of ten with a sign and at least two digits. -/
def exponentText (e : Int) : List Char :=
  (if e < 0 then '-' else '+') :: (padded 2 e.natAbs).toList

/-- Digits in positional notation with at least one place. -/
def positional (d : Digits) : List Char :=
  if d.point ≤ 0 then '0' :: '.' :: List.replicate d.point.natAbs '0' ++ d.digits
  else
    let whole := d.point.natAbs
    let body := d.digits ++ List.replicate (whole - d.digits.length) '0'
    let places := body.drop whole
    body.take whole ++ '.' :: (if places.isEmpty then ['0'] else places)

/-- Digits with an exponent of ten. -/
def scientific (d : Digits) : List Char :=
  match d.digits with
  | [] => []
  | c :: rest =>
    (c :: if rest.isEmpty then [] else '.' :: rest) ++ 'e' :: exponentText (d.point - 1)

/-- The shortest form of a number. -/
def Binary64.shortest : Binary64 → String
  | .nan => "nan"
  | .infinity negative => if negative then "-inf" else "inf"
  | .finite negative significand exponent =>
    let sign := if negative then ['-'] else []
    let body :=
      if significand = 0 then ['0', '.', '0']
      else
        let d := shortestDigits significand exponent
        if -4 < d.point ∧ d.point ≤ 16 then positional d else scientific d
    String.ofList (sign ++ body)

/-! ## Given places -/

/-- The digits of a ratio rounded to a number of places after the point, a tie to even. -/
def fixedPlaces (r : Nat × Nat) (places : Nat) (keepPoint : Bool) : List Char :=
  let n := roundEven (r.1 * Nat.pow 10 places) r.2
  let all := Nat.toDigits 10 n
  let body := List.replicate (places + 1 - all.length) '0' ++ all
  let whole := body.take (body.length - places)
  let rest := body.drop (body.length - places)
  whole ++ (if rest.isEmpty && !keepPoint then [] else '.' :: rest)

/-- A ratio rounded to `count` significant digits, with the exponent of the first one. -/
def significantDigits (r : Nat × Nat) (count : Nat) : List Char × Int :=
  if r.1 = 0 then (List.replicate count '0', 0)
  else
    let e := leadingExponent r
    let s := scaled r ((count : Int) - 1 - e)
    let all := Nat.toDigits 10 (roundEven s.1 s.2)
    if all.length = count then (all, e) else (all.take count, e + 1)

/-- A ratio with one digit before the point, a number of places after it, and an exponent. -/
def exponentPlaces (r : Nat × Nat) (places : Nat) (keepPoint : Bool) : List Char :=
  let (all, e) := significantDigits r (places + 1)
  let rest := all.drop 1
  all.take 1 ++ (if rest.isEmpty && !keepPoint then [] else '.' :: rest) ++ 'e' :: exponentText e

/-- A ratio with a number of significant digits: positional if the exponent of the first digit is
at least -4 and below that number, and without trailing zeros unless `keepZeros`. -/
def generalPlaces (r : Nat × Nat) (precision : Nat) (keepZeros : Bool) : List Char :=
  let count := max precision 1
  let (all, e) := significantDigits r count
  let drop := fun s : List Char => if keepZeros then s else (s.reverse.dropWhile (· == '0')).reverse
  let pointed := fun s : List Char => if s.isEmpty && !keepZeros then [] else '.' :: s
  if -4 ≤ e ∧ e < count then
    if e < 0 then
      '0' :: pointed (drop (List.replicate (e.natAbs - 1) '0' ++ all))
    else
      all.take (e.natAbs + 1) ++ pointed (drop (all.drop (e.natAbs + 1)))
  else all.take 1 ++ pointed (drop (all.drop 1)) ++ 'e' :: exponentText e

/-- How the digits of a number are laid out. -/
inductive Layout where
  | fixed
  | exponent
  | general
  deriving DecidableEq, Repr

/-- A number in a layout with a precision; `alternate` keeps the point and trailing zeros. -/
def Binary64.withPrecision (layout : Layout) (precision : Nat) (alternate : Bool) :
    Binary64 → List Char
  | .nan => ['n', 'a', 'n']
  | .infinity negative => (if negative then ['-'] else []) ++ ['i', 'n', 'f']
  | .finite negative significand exponent =>
    let r := Binary64.ratio significand exponent
    let body := match layout with
      | .fixed => fixedPlaces r precision alternate
      | .exponent => exponentPlaces r precision alternate
      | .general => generalPlaces r precision alternate
    (if negative then ['-'] else []) ++ body

end Discography.Number
