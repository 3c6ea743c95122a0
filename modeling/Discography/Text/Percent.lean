import Discography.Text.Digit
import Discography.Text.Utf8

/-!
# Percent escapes

A byte is escaped by a percent sign and its two digits in base sixteen. Decoding leaves escapes
that are not well formed as they are, and reads the bytes of each run of ASCII characters as UTF-8.

* `percentBytes_escape` — an escape is decoded to its byte.
-/

set_option autoImplicit false

namespace Discography.Text

/-- The escape of a byte. -/
def percentEscape (b : UInt8) : List Char :=
  ['%', upperHexDigit (b.toNat / 16), upperHexDigit (b.toNat % 16)]

/-- The bytes of ASCII characters, with escapes decoded. -/
def percentBytes : List Char → List UInt8
  | '%' :: a :: b :: r =>
    match asciiHexValue? a, asciiHexValue? b with
    | some x, some y => UInt8.ofNat (x * 16 + y) :: percentBytes r
    | _, _ => UInt8.ofNat '%'.toNat :: percentBytes (a :: b :: r)
  | c :: r => UInt8.ofNat c.toNat :: percentBytes r
  | [] => []

/-- Whether a character is ASCII. -/
def isAscii (c : Char) : Bool := c.toNat < 0x80

/-- A text with its escapes decoded. -/
def percentDecode (s : List Char) : List Char :=
  (s.splitBy fun a b => isAscii a == isAscii b).flatMap fun run =>
    if run.all isAscii then lenient (percentBytes run) else run

/-- Whether a character never needs an escape. -/
def isUnreserved (c : Char) : Bool :=
  c.isAlphanum || c == '_' || c == '.' || c == '-' || c == '~'

/-- A text with the bytes escaped that are neither unreserved nor among the safe characters. -/
def percentEncode (safe : List Char) (s : String) : String :=
  String.ofList (s.toUTF8.data.toList.flatMap fun b =>
    let c := Char.ofNat b.toNat
    if isAscii c && (isUnreserved c || safe.contains c) then [c] else percentEscape b)

theorem asciiHexValue?_upperHexDigit :
    ∀ n < 16, asciiHexValue? (upperHexDigit n) = some n := by decide

theorem percentBytes_escape (b : UInt8) (r : List Char) :
    percentBytes (percentEscape b ++ r) = b :: percentBytes r := by
  have hb := b.toNat_lt
  have hh := asciiHexValue?_upperHexDigit (b.toNat / 16) (by omega)
  have hl := asciiHexValue?_upperHexDigit (b.toNat % 16) (by omega)
  simp only [percentEscape, List.cons_append, List.nil_append, percentBytes, hh, hl]
  congr
  rw [show b.toNat / 16 * 16 + b.toNat % 16 = b.toNat by omega]
  exact UInt8.ofNat_toNat

end Discography.Text
