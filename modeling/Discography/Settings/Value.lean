import Discography.Json.Reader
import Discography.Page
import Discography.Text.Blank

/-!
# Values of settings

A setting is a text, an integer or a switch. It is given as a text by a variable, or as any JSON
value by an argument; a value of another kind, or a text that cannot be read, is a problem.
-/

set_option autoImplicit false

namespace Discography.Settings

open Discography.Json Discography.Number Discography.Text

/-- What is wrong with the value of a setting. -/
inductive Problem where
  | missing
  | extraForbidden
  | stringType
  | intType
  | intParsing
  | intParsingSize
  | intFromFloat
  | finiteNumber
  | boolType
  | boolParsing
  deriving DecidableEq, Repr

/-- The name of a problem. -/
def Problem.name : Problem → String
  | .missing => "missing"
  | .extraForbidden => "extra_forbidden"
  | .stringType => "string_type"
  | .intType => "int_type"
  | .intParsing => "int_parsing"
  | .intParsingSize => "int_parsing_size"
  | .intFromFloat => "int_from_float"
  | .finiteNumber => "finite_number"
  | .boolType => "bool_type"
  | .boolParsing => "bool_parsing"

/-- The value of a setting or what is wrong with it. -/
abbrev Reading (α : Type) := Except Problem α

/-! ## Texts -/

/-- A text setting. -/
def readText : Value → Reading String
  | .text s => .ok s
  | _ => .error .stringType

/-! ## Integers -/

/-- Whether a text begins with too many digits for an integer, whatever follows them. -/
def isTooLong (s : List Char) : Bool :=
  let signed := match s with
    | '-' :: r => (true, r)
    | r => (false, r)
  let digits := signed.2.takeWhile Char.isDigit
  digits.head? != some '0' && !usualLimits.admits signed.1 digits.length

/-- The integer that a text spells as JSON does, with nothing around it. -/
def plainInteger (s : List Char) : Reading Int :=
  match number? usualLimits s with
  | some (.integer n, []) => .ok n
  | _ => .error (if isTooLong s then .intParsingSize else .intParsing)

/-- A text without a plus sign in front, behind which no other sign may stand. -/
def withoutPlus? : List Char → Option (List Char)
  | '+' :: '-' :: _ => none
  | '+' :: r => some r
  | s => some s

/-- What follows leading zeros and the underscores among them; `last` is the character before. It
stays if nothing or a fraction follows. -/
def afterZeros? (last : Char) : List Char → Option (List Char)
  | [] => some [last]
  | c :: r =>
    if c = '0' ∨ c = '_' then afterZeros? c r
    else if c = '.' then some (last :: c :: r)
    else if c.isDigit ∨ c = '-' then some (c :: r)
    else none

/-- A text of a number without its leading zeros. -/
def withoutZeros? : List Char → Option (List Char)
  | [] => none
  | c :: r =>
    if c = '0' then afterZeros? c r
    else if c.isDigit ∨ c = '-' then some (c :: r)
    else none

/-- A text without a fraction that holds zeros alone. -/
def withoutZeroFraction (s : List Char) : List Char :=
  match s.dropWhile (· != '.') with
  | _ :: c :: r => if (c :: r).all (· == '0') then s.takeWhile (· != '.') else s
  | _ => s

/-- A text without its underscores, if each of them stands alone between two other characters. -/
def withoutUnderscores (s : List Char) : List Char :=
  if (s.splitOn '_').any List.isEmpty then s else s.filter (· != '_')

/-- A text of an integer as JSON has it: without blanks around it, a plus sign, leading zeros, a
fraction of zeros and single underscores. -/
def tidied? (s : List Char) : Option (List Char) := do
  let unsigned ← withoutPlus? (trim isBlank s)
  let whole ← withoutZeros? unsigned
  some (withoutUnderscores (withoutZeroFraction whole))

/-- The integer that a text spells: as JSON does, or once it has been tidied. -/
def integerOfText (s : String) : Reading Int :=
  match plainInteger s.toList with
  | .error .intParsing =>
    match tidied? s.toList with
    | some t => plainInteger t
    | none => .error .intParsing
  | result => result

/-- The integer that a number of the 64-bit format is equal to. -/
def integerOfBinary : Binary64 → Reading Int
  | .nan | .infinity _ => .error .finiteNumber
  | .finite negative significand exponent =>
    let (n, d) := Binary64.ratio significand exponent
    if n % d ≠ 0 then .error .intFromFloat
    else
      let whole := Binary64.truncate negative significand exponent
      if fitsInt64 whole then .ok whole else .error .intParsingSize

/-- The number of the 64-bit format that a word for no number stands for. -/
def specialBinary : Special → Binary64
  | .nan => .nan
  | .infinity => .infinity false
  | .negativeInfinity => .infinity true

/-- An integer setting. -/
def readInteger : Value → Reading Int
  | .integer n => .ok n
  | .bool b => .ok (if b then 1 else 0)
  | .text s => integerOfText s
  | .decimal d => integerOfBinary d.toBinary64
  | .special s => integerOfBinary (specialBinary s)
  | .null | .array _ | .object _ => .error .intType

/-! ## Switches -/

/-- The words for a switch that is on. -/
def onWords : List String := ["true", "t", "yes", "y", "on", "1"]

/-- The words for a switch that is off. -/
def offWords : List String := ["false", "f", "no", "n", "off", "0"]

/-- The switch that a text spells, without regard to the case of ASCII letters. -/
def switchOfText (s : String) : Reading Bool :=
  let word := String.ofList (s.toList.map Char.toLower)
  if onWords.contains word then .ok true
  else if offWords.contains word then .ok false
  else .error .boolParsing

/-- The switch that an integer stands for. -/
def switchOfInteger (n : Int) : Reading Bool :=
  if n = 1 then .ok true
  else if n = 0 then .ok false
  else if fitsInt64 n then .error .boolParsing
  else .error .boolType

/-- The switch that a number of the 64-bit format stands for. -/
def switchOfBinary (x : Binary64) : Reading Bool :=
  match integerOfBinary x with
  | .ok n => switchOfInteger n
  | .error _ => .error .boolType

/-- A switch. -/
def readSwitch : Value → Reading Bool
  | .bool b => .ok b
  | .text s => switchOfText s
  | .integer n => switchOfInteger n
  | .decimal d => switchOfBinary d.toBinary64
  | .special s => switchOfBinary (specialBinary s)
  | .null | .array _ | .object _ => .error .boolType

end Discography.Settings
