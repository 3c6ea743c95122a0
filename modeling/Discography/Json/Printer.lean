import Discography.Json.Value
import Discography.Number.Written

/-!
# Printing JSON values

A value on one line, in one of several layouts: with or without a space after commas and colons,
and with characters beyond ASCII as they are or as escapes of their 16-bit units.

* `space_le_of_mem_escaped` — no control character is printed inside a string.
-/

set_option autoImplicit false

namespace Discography.Json

open Discography.Number Discography.Text

/-- What varies between printed forms of one value. -/
structure Layout where
  /-- Whether a space follows each comma and colon. -/
  spaced : Bool
  /-- Whether characters beyond printable ASCII are escaped. -/
  asciiOnly : Bool
  deriving DecidableEq, Repr

namespace Layout

/-- No spaces, characters as they are. -/
def compact : Layout := ⟨false, false⟩

/-- A space after each comma and colon, characters as they are. -/
def spacious : Layout := ⟨true, false⟩

/-- A space after each comma and colon, ASCII characters alone. -/
def ascii : Layout := ⟨true, true⟩

end Layout

/-- The escape of a 16-bit unit. -/
def unitEscape (n : Nat) : List Char :=
  ['\\', 'u', hexDigit (n / 4096 % 16), hexDigit (n / 256 % 16), hexDigit (n / 16 % 16),
    hexDigit (n % 16)]

/-- The escape of a character by one or two 16-bit units. -/
def charEscape (c : Char) : List Char :=
  let n := c.toNat
  if n < 0x10000 then unitEscape n
  else unitEscape (0xD800 + (n - 0x10000) / 0x400) ++ unitEscape (0xDC00 + (n - 0x10000) % 0x400)

/-- A character inside a string. -/
def escaped (layout : Layout) (c : Char) : List Char :=
  if c = '"' then ['\\', '"']
  else if c = '\\' then ['\\', '\\']
  else if c = '\n' then ['\\', 'n']
  else if c = '\r' then ['\\', 'r']
  else if c = '\t' then ['\\', 't']
  else if c = '\x0c' then ['\\', 'f']
  else if c = '\x08' then ['\\', 'b']
  else if c < ' ' then charEscape c
  else if layout.asciiOnly && decide ('~' < c) then charEscape c
  else [c]

theorem space_le_hexDigit : ∀ n < 16, ' ' ≤ hexDigit n := by decide

theorem space_le_of_mem_unitEscape {n : Nat} {d : Char} (h : d ∈ unitEscape n) : ' ' ≤ d := by
  simp only [unitEscape, List.mem_cons, List.not_mem_nil, or_false] at h
  rcases h with rfl | rfl | rfl | rfl | rfl | rfl
  · decide
  · decide
  all_goals exact space_le_hexDigit _ (Nat.mod_lt _ (by decide))

theorem space_le_of_mem_charEscape {c d : Char} (h : d ∈ charEscape c) : ' ' ≤ d := by
  simp only [charEscape] at h
  split at h
  · exact space_le_of_mem_unitEscape h
  · rcases List.mem_append.1 h with h | h <;> exact space_le_of_mem_unitEscape h

theorem space_le_of_mem_escaped {layout : Layout} {c d : Char} (h : d ∈ escaped layout c) :
    ' ' ≤ d := by
  have two {x y : Char} (hx : ' ' ≤ x) (hy : ' ' ≤ y) (hd : d ∈ [x, y]) : ' ' ≤ d := by
    simp only [List.mem_cons, List.not_mem_nil, or_false] at hd
    rcases hd with rfl | rfl <;> assumption
  unfold escaped at h
  split at h; · exact two (by decide) (by decide) h
  split at h; · exact two (by decide) (by decide) h
  split at h; · exact two (by decide) (by decide) h
  split at h; · exact two (by decide) (by decide) h
  split at h; · exact two (by decide) (by decide) h
  split at h; · exact two (by decide) (by decide) h
  split at h; · exact two (by decide) (by decide) h
  split at h; · exact space_le_of_mem_charEscape h
  split at h; · exact space_le_of_mem_charEscape h
  next hc _ =>
    rw [List.mem_singleton] at h
    exact h ▸ Char.not_lt.1 hc

/-- A text between double quotes. -/
def stringChars (layout : Layout) (s : String) : List Char :=
  '"' :: s.toList.flatMap (escaped layout) ++ ['"']

/-- A number of the 64-bit format. -/
def binaryChars : Binary64 → List Char
  | .nan => "NaN".toList
  | .infinity negative => if negative then "-Infinity".toList else "Infinity".toList
  | x => x.shortest.toList

/-- The words for values that are no numbers. -/
def Special.chars : Special → List Char
  | .nan => "NaN".toList
  | .infinity => "Infinity".toList
  | .negativeInfinity => "-Infinity".toList

/-- What stands between two items. -/
def comma (layout : Layout) : List Char := if layout.spaced then [',', ' '] else [',']

/-- What stands between a name and its value. -/
def colon (layout : Layout) : List Char := if layout.spaced then [':', ' '] else [':']

mutual

/-- The characters of a value. -/
def Value.chars (layout : Layout) : Value → List Char
  | .null => "null".toList
  | .bool b => if b then "true".toList else "false".toList
  | .integer n => (signedDecimal n).toList
  | .decimal d => binaryChars d.toBinary64
  | .special s => s.chars
  | .text s => stringChars layout s
  | .array items => '[' :: itemChars layout items
  | .object members => '\x7b' :: memberChars layout members

/-- The items of an array and its closing bracket. -/
def itemChars (layout : Layout) : List Value → List Char
  | [] => [']']
  | v :: vs => v.chars layout ++ moreItemChars layout vs

/-- The items after the first one and the closing bracket. -/
def moreItemChars (layout : Layout) : List Value → List Char
  | [] => [']']
  | v :: vs => comma layout ++ v.chars layout ++ moreItemChars layout vs

/-- The members of an object and its closing brace. -/
def memberChars (layout : Layout) : List (String × Value) → List Char
  | [] => ['\x7d']
  | (name, v) :: ms =>
    stringChars layout name ++ colon layout ++ v.chars layout ++ moreMemberChars layout ms

/-- The members after the first one and the closing brace. -/
def moreMemberChars (layout : Layout) : List (String × Value) → List Char
  | [] => ['\x7d']
  | (name, v) :: ms =>
    comma layout ++ stringChars layout name ++ colon layout ++ v.chars layout ++
      moreMemberChars layout ms

end

/-- A value on one line. -/
def Value.render (layout : Layout) (v : Value) : String := String.ofList (v.chars layout)

end Discography.Json
