import Discography.Json.Value
import Discography.Number.Written
import Discography.Text.Quoted

/-!
# Values in messages

How a value is shown inside a message. A text stands for itself on its own and is quoted inside a
list or a mapping; nothing and the two truth values are words with a capital letter.
-/

set_option autoImplicit false

namespace Discography.Log

open Discography.Json Discography.Number Discography.Text

/-- The word for a value that is no number. -/
def specialWord : Special → String
  | .nan => "nan"
  | .infinity => "inf"
  | .negativeInfinity => "-inf"

mutual

/-- A value as it is shown inside another one. -/
def inside : Value → String
  | .null => "None"
  | .bool b => if b then "True" else "False"
  | .integer n => signedDecimal n
  | .decimal d => d.toBinary64.shortest
  | .special s => specialWord s
  | .text s => quoted s
  | .array items => "[" ++ ", ".intercalate (itemsInside items) ++ "]"
  | .object members => "\x7b" ++ ", ".intercalate (membersInside members) ++ "\x7d"

/-- The items of a list as they are shown. -/
def itemsInside : List Value → List String
  | [] => []
  | v :: vs => inside v :: itemsInside vs

/-- The members of a mapping as they are shown. -/
def membersInside : List (String × Value) → List String
  | [] => []
  | (name, v) :: ms => (quoted name ++ ": " ++ inside v) :: membersInside ms

end

/-- A value as it is shown on its own. -/
def shown : Value → String
  | .text s => s
  | v => inside v

/-- The word for the kind of a value. -/
def kindWord : Value → String
  | .null => "NoneType"
  | .bool _ => "bool"
  | .integer _ => "int"
  | .decimal _ | .special _ => "float"
  | .text _ => "str"
  | .array _ => "list"
  | .object _ => "dict"

/-- Whether a value counts as something: it is not nothing, false, zero or empty. -/
def isSomething : Value → Bool
  | .null => false
  | .bool b => b
  | .integer n => n != 0
  | .decimal d => match d.toBinary64 with
    | .finite _ significand _ => significand != 0
    | _ => true
  | .special _ => true
  | .text s => !s.isEmpty
  | .array items => !items.isEmpty
  | .object members => !members.isEmpty

end Discography.Log
