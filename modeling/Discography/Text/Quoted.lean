import Discography.Text.Digit
import Discography.Text.Printable

/-!
# Quoted texts

A text between quotes on one line. A single quote is used unless the text holds one and holds no
double quote. The quote and the backslash are escaped by a backslash, line feed, carriage return
and tab by a letter, and every other unprintable character by its code point in base sixteen.
-/

set_option autoImplicit false

namespace Discography.Text

/-- The quote that surrounds a text. -/
def quoteFor (s : List Char) : Char :=
  if '\'' ∈ s ∧ '"' ∉ s then '"' else '\''

/-- The last `width` digits of a number in base sixteen, in lower case. -/
def hexPadded : Nat → Nat → List Char
  | 0, _ => []
  | width + 1, n => hexPadded width (n / 16) ++ [hexDigit (n % 16)]

/-- A character as it is written between quotes `q`. -/
def quotedChar (q c : Char) : List Char :=
  if c = q ∨ c = '\\' then ['\\', c]
  else if c = '\n' then ['\\', 'n']
  else if c = '\r' then ['\\', 'r']
  else if c = '\t' then ['\\', 't']
  else if isPrintable c then [c]
  else if c.toNat < 0x100 then '\\' :: 'x' :: hexPadded 2 c.toNat
  else if c.toNat < 0x10000 then '\\' :: 'u' :: hexPadded 4 c.toNat
  else '\\' :: 'U' :: hexPadded 8 c.toNat

/-- A text between quotes. -/
def quoted (s : String) : String :=
  let q := quoteFor s.toList
  String.ofList (q :: s.toList.flatMap (quotedChar q) ++ [q])

/-- A character as it is written in quotes `q` by ASCII characters alone. -/
def asciiQuotedChar (q c : Char) : List Char :=
  if c.toNat < 0x7F then quotedChar q c
  else if c.toNat < 0x100 then '\\' :: 'x' :: hexPadded 2 c.toNat
  else if c.toNat < 0x10000 then '\\' :: 'u' :: hexPadded 4 c.toNat
  else '\\' :: 'U' :: hexPadded 8 c.toNat

/-- The quoted form `s` of a text with every non-ASCII character escaped by its code point. -/
def asciiOnly (s : String) : String :=
  String.ofList (s.toList.flatMap fun c =>
    if c.toNat < 0x80 then [c] else asciiQuotedChar '\'' c)

end Discography.Text
