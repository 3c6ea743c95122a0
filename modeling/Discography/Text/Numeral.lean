import Discography.Text.Blank
import Discography.Text.Digit

/-!
# Integer literals

An integer literal has an optional sign and digits, with single underscores allowed between two
digits. Decimal digits of every script count as their value. Blanks around it are ignored.
-/

set_option autoImplicit false

namespace Discography.Text

/-- The greatest number of digits that are converted to an integer. -/
def digitLimit : Nat := 4300

/-- The values of a run of digits in which single underscores may stand between two digits. -/
def digitRun? (value : Char → Option Nat) : List Char → Option (List Nat)
  | [] => none
  | c :: r =>
    match value c with
    | none => none
    | some d =>
      match r with
      | [] => some [d]
      | '_' :: t => (digitRun? value t).map (d :: ·)
      | x :: t => (digitRun? value (x :: t)).map (d :: ·)

/-- A sign in front of a text, true if it is negative, and the rest. -/
def splitSign : List Char → Bool × List Char
  | '-' :: r => (true, r)
  | '+' :: r => (false, r)
  | s => (false, s)

/-- A decimal digit of any script as its ASCII digit; any other character stays. -/
def foldDigit (c : Char) : Char :=
  match decimalValue? c with
  | some d => hexDigit d
  | none => c

/-- The digits of a literal in base sixteen after its optional mark `0x`, behind which one
underscore is allowed. -/
def withoutHexMark : List Char → List Char
  | '0' :: x :: r =>
    if x = 'x' ∨ x = 'X' then
      match r with
      | '_' :: t => t
      | t => t
    else '0' :: x :: r
  | s => s

/-- The value of a literal in base sixteen. -/
def hexLiteral? (s : List Char) : Option Int :=
  let signed := splitSign ((trim isBlank s).map foldDigit)
  (digitRun? asciiHexValue? (withoutHexMark signed.2)).map fun ds =>
    if signed.1 then -(ofDigits 16 ds : Int) else ofDigits 16 ds

/-- How many digits a literal in base ten begins with, after blanks and a sign. -/
def leadingDigits (s : List Char) : Nat :=
  ((splitSign (trim isBlank s)).2.takeWhile fun c => (decimalValue? c).isSome || c == '_').countP
    (· != '_')

/-- The value of a literal in base ten. -/
def decimalLiteral? (s : List Char) : Option Int :=
  let signed := splitSign (trim isBlank s)
  (digitRun? decimalValue? signed.2).map fun ds =>
    if signed.1 then -(ofDigits 10 ds : Int) else ofDigits 10 ds

/-- A text without any occurrence of a word, each deleted from the left; `skip` characters at the
front belong to an occurrence that has begun. -/
def eraseFrom (word : List Char) : Nat → List Char → List Char
  | _, [] => []
  | skip + 1, _ :: r => eraseFrom word skip r
  | 0, c :: r =>
    if word.isPrefixOf (c :: r) then eraseFrom word (word.length - 1) r
    else c :: eraseFrom word 0 r

/-- A text without any occurrence of a word, each deleted from the left. -/
def erase (word : List Char) (s : List Char) : List Char := eraseFrom word 0 s

end Discography.Text
