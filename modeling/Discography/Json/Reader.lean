import Discography.Json.Value
import Discography.Text.Numeral

/-!
# Reading JSON texts

A recursive reader over characters. Strings hold no raw control characters, escapes of surrogates
come in pairs, numerals follow the JSON grammar, and nothing but blanks surrounds the value.
Two limits bound what is read: the number of nested containers that have something in them, and the
number of digits of an integer or integer part.

* `escape?_length_lt` — an escape consumes at least one character, so that reading a string ends.
-/

set_option autoImplicit false

namespace Discography.Json

open Discography.Number Discography.Text

/-- What bounds a text that is read. Releases of the reader differ in whether a minus sign counts as
one of the digits behind it. -/
structure Limits where
  /-- How many containers that have something in them may be nested. -/
  depth : Nat
  /-- How many digits an integer or an integer part may have. -/
  digits : Nat
  /-- Whether a minus sign counts as a digit. -/
  countsMinus : Bool
  deriving DecidableEq, Repr

/-- Whether so many digits, with a minus sign in front or without, are not too many. -/
def Limits.admits (limits : Limits) (negative : Bool) (digits : Nat) : Bool :=
  digits + (if limits.countsMinus && negative then 1 else 0) ≤ limits.digits

/-- The limits in the releases that do not count a minus sign. -/
def usualLimits : Limits := ⟨200, digitLimit, false⟩

/-- A blank between tokens. -/
def isGap (c : Char) : Bool := c == ' ' || c == '\t' || c == '\n' || c == '\r'

/-- A text without its leading blanks. -/
def skipGap (s : List Char) : List Char := s.dropWhile isGap

/-! ## Strings -/

/-- The value of four digits in base sixteen, and what follows them. -/
def unit? : List Char → Option (Nat × List Char)
  | a :: b :: c :: d :: r =>
    match asciiHexValue? a, asciiHexValue? b, asciiHexValue? c, asciiHexValue? d with
    | some w, some x, some y, some z => some (ofDigits 16 [w, x, y, z], r)
    | _, _, _, _ => none
  | _ => none

/-- Whether a 16-bit unit is the first half of a pair. -/
def isHighHalf (n : Nat) : Bool := 0xD800 ≤ n && n < 0xDC00

/-- Whether a 16-bit unit is the second half of a pair. -/
def isLowHalf (n : Nat) : Bool := 0xDC00 ≤ n && n < 0xE000

/-- The character of a pair of 16-bit units. -/
def pairChar (high low : Nat) : Char :=
  Char.ofNat (0x10000 + (high - 0xD800) * 0x400 + (low - 0xDC00))

/-- The character that follows `\u`, and what follows it. -/
def unicodeEscape? (s : List Char) : Option (Char × List Char) :=
  match unit? s with
  | none => none
  | some (high, r) =>
    if isHighHalf high then
      match r with
      | '\\' :: 'u' :: t =>
        match unit? t with
        | none => none
        | some (low, u) => if isLowHalf low then some (pairChar high low, u) else none
      | _ => none
    else if isLowHalf high then none
    else some (Char.ofNat high, r)

/-- The character that a letter stands for after a backslash. -/
def letterEscape? (c : Char) : Option Char :=
  if c = '"' ∨ c = '\\' ∨ c = '/' then some c
  else if c = 'b' then some '\x08'
  else if c = 'f' then some '\x0c'
  else if c = 'n' then some '\n'
  else if c = 'r' then some '\r'
  else if c = 't' then some '\t'
  else none

/-- The character that an escape stands for, after its backslash, and what follows it. -/
def escape? : List Char → Option (Char × List Char)
  | [] => none
  | c :: r =>
    match letterEscape? c with
    | some x => some (x, r)
    | none => if c = 'u' then unicodeEscape? r else none

theorem unit?_length {s r : List Char} {n : Nat} (h : unit? s = some (n, r)) :
    s.length = r.length + 4 := by
  unfold unit? at h
  split at h
  · split at h
    · cases h; rfl
    · simp at h
  · simp at h

theorem unicodeEscape?_length_lt {s r : List Char} {c : Char}
    (h : unicodeEscape? s = some (c, r)) : r.length < s.length := by
  unfold unicodeEscape? at h
  split at h
  · simp at h
  · next high t ht =>
    have hs := unit?_length ht
    split at h
    · split at h
      · next u =>
        split at h
        · simp at h
        · next low v hv =>
          have hu := unit?_length hv
          split at h
          · simp only [Option.some.injEq, Prod.mk.injEq] at h
            rw [← h.2]
            simp only [List.length_cons] at hs
            omega
          · simp at h
      · simp at h
    · split at h
      · simp at h
      · simp only [Option.some.injEq, Prod.mk.injEq] at h
        rw [← h.2]
        omega

theorem escape?_length_lt {s r : List Char} {c : Char} (h : escape? s = some (c, r)) :
    r.length < s.length := by
  unfold escape? at h
  split at h
  · simp at h
  · next d t =>
    split at h
    · cases h; simp
    · split at h
      · have := unicodeEscape?_length_lt h
        simp only [List.length_cons]
        omega
      · simp at h

/-- The characters up to the closing quote, and what follows it; `read` holds those before, last
one first. -/
def stringFrom (read : List Char) (s : List Char) : Option (List Char × List Char) :=
  match s with
  | [] => none
  | c :: r =>
    if c = '"' then some (read.reverse, r)
    else if c = '\\' then
      match _h : escape? r with
      | none => none
      | some (x, t) => stringFrom (x :: read) t
    else if c < ' ' then none
    else stringFrom (c :: read) r
termination_by s.length
decreasing_by
  · have := escape?_length_lt (by assumption)
    simp only [List.length_cons]
    omega
  · simp

/-- A string after its opening quote, and what follows it. -/
def string? (s : List Char) : Option (String × List Char) :=
  (stringFrom [] s).map fun p => (String.ofList p.1, p.2)

/-! ## Numbers -/

/-- The value of a text of ASCII digits. -/
def digitsValue (s : List Char) : Nat := ofDigits 10 (s.map fun c => c.toNat - '0'.toNat)

/-- The digits at the front of a text, of which there is at least one, and what follows them. -/
def someDigits? (s : List Char) : Option (List Char × List Char) :=
  match s.takeWhile Char.isDigit with
  | [] => none
  | ds => some (ds, s.dropWhile Char.isDigit)

/-- The digits of a fraction, if a point comes first, and what follows. -/
def fraction? : List Char → Option (List Char × List Char)
  | '.' :: r => someDigits? r
  | s => some ([], s)

/-- The exponent, if its mark comes first, and what follows. -/
def exponent? : List Char → Option (Option Int × List Char)
  | c :: r =>
    if c = 'e' ∨ c = 'E' then
      let signed := match r with
        | '-' :: t => (true, t)
        | '+' :: t => (false, t)
        | t => (false, t)
      (someDigits? signed.2).map fun p =>
        (some (if signed.1 then -(digitsValue p.1 : Int) else digitsValue p.1), p.2)
    else some (none, c :: r)
  | [] => some (none, [])

/-- Whether digits may stand before the point: at least one, no useless zero, and not too many, with
a minus sign in front or without. -/
def isWhole (limits : Limits) (negative : Bool) (ds : List Char) : Bool :=
  match ds with
  | [] => false
  | d :: r =>
    (d != '0' || r.isEmpty) && limits.admits negative ds.length

/-- The value of a numeral from its parts. -/
def numeral (negative : Bool) (whole fraction : List Char) (exponent : Option Int) : Value :=
  if fraction.isEmpty && exponent.isNone then
    .integer (if negative then -(digitsValue whole : Int) else digitsValue whole)
  else
    .decimal ⟨negative, digitsValue (whole ++ fraction), exponent.getD 0 - fraction.length⟩

/-- A numeral, and what follows it. -/
def number? (limits : Limits) (s : List Char) : Option (Value × List Char) :=
  let signed := match s with
    | '-' :: r => (true, r)
    | r => (false, r)
  let whole := signed.2.takeWhile Char.isDigit
  if isWhole limits signed.1 whole then
    match fraction? (signed.2.dropWhile Char.isDigit) with
    | none => none
    | some (fraction, r) =>
      match exponent? r with
      | none => none
      | some (e, t) => some (numeral signed.1 whole fraction e, t)
  else none

/-! ## Values -/

/-- What follows a word, if the text starts with it. -/
def after? (word : List Char) (s : List Char) : Option (List Char) :=
  if word.isPrefixOf s then some (s.drop word.length) else none

/-- The values that are written as a word. -/
def words : List (List Char × Value) :=
  [("null".toList, .null), ("true".toList, .bool true), ("false".toList, .bool false),
   ("NaN".toList, .special .nan), ("Infinity".toList, .special .infinity),
   ("-Infinity".toList, .special .negativeInfinity)]

/-- A word or a numeral, and what follows it. -/
def scalar? (limits : Limits) (s : List Char) : Option (Value × List Char) :=
  match words.findSome? fun w => (after? w.1 s).map fun r => (w.2, r) with
  | some p => some p
  | none => number? limits s

mutual

/-- A value, and what follows it. `levels` counts the levels that it may have: a scalar and an empty
container have one, any other container has one more than the values in it. -/
def value? (limits : Limits) : Nat → Nat → List Char → Option (Value × List Char)
  | 0, _, _ | _ + 1, 0, _ => none
  | fuel + 1, levels + 1, s =>
    match s with
    | '"' :: r => (string? r).map fun p => (.text p.1, p.2)
    | '[' :: r =>
      match skipGap r with
      | ']' :: t => some (.array [], t)
      | t => items? limits fuel levels [] t
    | '\x7b' :: r =>
      match skipGap r with
      | '\x7d' :: t => some (.object [], t)
      | t => members? limits fuel levels [] t
    | _ => scalar? limits s

/-- The items of an array up to its closing bracket; `read` holds those before, last one first. -/
def items? (limits : Limits) :
    Nat → Nat → List Value → List Char → Option (Value × List Char)
  | 0, _, _, _ => none
  | fuel + 1, levels, read, s =>
    match value? limits fuel levels s with
    | none => none
    | some (v, r) =>
      match skipGap r with
      | ',' :: t => items? limits fuel levels (v :: read) (skipGap t)
      | ']' :: t => some (.array (v :: read).reverse, t)
      | _ => none

/-- The members of an object up to its closing brace; `read` holds those before, last one first. -/
def members? (limits : Limits) :
    Nat → Nat → List (String × Value) → List Char → Option (Value × List Char)
  | 0, _, _, _ => none
  | fuel + 1, levels, read, s =>
    match s with
    | '"' :: r =>
      match string? r with
      | none => none
      | some (name, t) =>
        match skipGap t with
        | ':' :: u =>
          match value? limits fuel levels (skipGap u) with
          | none => none
          | some (v, w) =>
            match skipGap w with
            | ',' :: x => members? limits fuel levels ((name, v) :: read) (skipGap x)
            | '\x7d' :: x => some (.object ((name, v) :: read).reverse, x)
            | _ => none
        | _ => none
    | _ => none

end

/-- The value that a whole text spells. Each character is looked at in at most two steps. -/
def read? (limits : Limits) (s : String) : Option Value :=
  let chars := s.toList
  match value? limits (2 * chars.length + 2) (limits.depth + 1) (skipGap chars) with
  | none => none
  | some (v, r) => if (skipGap r).isEmpty then some v else none

end Discography.Json
