/-!
# Floating-point numbers of 64 bits

A number is a sign, a significand below 2^53 and a power of two, or infinite, or not a number.
Ratios of natural numbers round to the nearest such number, a tie to the even significand.
All arithmetic is exact on natural numbers.

* `roundEven_spec` — rounding a quotient is off by at most half a unit.
-/

set_option autoImplicit false

namespace Discography.Number

/-- The quotient rounded to the nearest natural number, a tie to the even neighbour. -/
def roundEven (num den : Nat) : Nat :=
  let q := num / den
  let r := num % den
  if 2 * r < den then q
  else if den < 2 * r then q + 1
  else if q % 2 = 0 then q else q + 1

theorem roundEven_spec (num den : Nat) (h : 0 < den) :
    2 * num ≤ (2 * roundEven num den + 1) * den ∧
      2 * (roundEven num den * den) ≤ 2 * num + den := by
  have hq := Nat.div_add_mod num den
  have hr := Nat.mod_lt num h
  have hc : den * (num / den) = num / den * den := Nat.mul_comm _ _
  simp only [roundEven]
  generalize num / den = q at *
  generalize num % den = r at *
  split
  · constructor
    · have : (2 * q + 1) * den = 2 * (q * den) + den := by
        rw [Nat.add_mul, Nat.one_mul, Nat.mul_assoc]
      omega
    · omega
  · split
    · constructor
      · have : (2 * (q + 1) + 1) * den = 2 * (q * den) + 3 * den := by
          rw [show 2 * (q + 1) + 1 = 2 * q + 3 by omega, Nat.add_mul, Nat.mul_assoc]
        omega
      · have : (q + 1) * den = q * den + den := by rw [Nat.add_mul, Nat.one_mul]
        omega
    · split
      · constructor
        · have : (2 * q + 1) * den = 2 * (q * den) + den := by
            rw [Nat.add_mul, Nat.one_mul, Nat.mul_assoc]
          omega
        · omega
      · constructor
        · have : (2 * (q + 1) + 1) * den = 2 * (q * den) + 3 * den := by
            rw [show 2 * (q + 1) + 1 = 2 * q + 3 by omega, Nat.add_mul, Nat.mul_assoc]
          omega
        · have : (q + 1) * den = q * den + den := by rw [Nat.add_mul, Nat.one_mul]
          omega

/-- A number of the 64-bit format. -/
inductive Binary64 where
  | nan
  | infinity (negative : Bool)
  /-- The number `significand · 2 ^ exponent`, negated if `negative`. -/
  | finite (negative : Bool) (significand : Nat) (exponent : Int)
  deriving DecidableEq, Repr

namespace Binary64

/-- The least exponent of a significand. -/
def minExponent : Int := -1074

/-- The greatest exponent of a significand. -/
def maxExponent : Int := 971

/-- Zero of either sign. -/
def zero (negative : Bool) : Binary64 := .finite negative 0 minExponent

/-- A positive ratio in units of `2 ^ exponent`, rounded to the even neighbour on a tie. -/
def unitsOf (num den : Nat) (exponent : Int) : Nat :=
  if exponent < 0 then roundEven (num <<< exponent.natAbs) den
  else roundEven num (den <<< exponent.natAbs)

/-- The number nearest to a ratio. -/
def ofRatio (negative : Bool) (num den : Nat) : Binary64 :=
  if num = 0 then zero negative
  else
    let magnitude : Int := (Nat.log2 num : Int) - (Nat.log2 den : Int)
    let shifted := fun e : Int => unitsOf num den e
    let low := max (magnitude - 53) minExponent
    let fits := fun e : Int => decide (shifted e < 1 <<< 53)
    let exponent := if fits low then low else if fits (low + 1) then low + 1 else low + 2
    if maxExponent < exponent then .infinity negative
    else .finite negative (shifted exponent) exponent

/-- A finite number as a ratio of natural numbers, without its sign. -/
def ratio (significand : Nat) (exponent : Int) : Nat × Nat :=
  if exponent < 0 then (significand, 1 <<< exponent.natAbs)
  else (significand <<< exponent.natAbs, 1)

/-- The whole part of a finite number, cut toward zero. -/
def truncate (negative : Bool) (significand : Nat) (exponent : Int) : Int :=
  let (n, d) := ratio significand exponent
  if negative then -((n / d : Nat) : Int) else ((n / d : Nat) : Int)

/-- The number nearest to an integer. -/
def ofInt (n : Int) : Binary64 := ofRatio (n < 0) n.natAbs 1

end Binary64

/-- A decimal numeral `digits · 10 ^ exponent`, negated if `negative`. -/
structure Decimal where
  negative : Bool
  digits : Nat
  exponent : Int
  deriving DecidableEq, Repr

namespace Decimal

/-- The number of the 64-bit format nearest to a decimal numeral. Magnitudes from `10 ^ 310` on are
infinite and those below `10 ^ -330` are zero, whatever the digits. -/
def toBinary64 (x : Decimal) : Binary64 :=
  if x.digits = 0 then .zero x.negative
  else
    let places : Int := (Nat.toDigits 10 x.digits).length + x.exponent
    if 310 < places then .infinity x.negative
    else if places < -330 then .zero x.negative
    else if x.exponent < 0 then .ofRatio x.negative x.digits (Nat.pow 10 x.exponent.natAbs)
    else .ofRatio x.negative (x.digits * Nat.pow 10 x.exponent.natAbs) 1

end Decimal

end Discography.Number
