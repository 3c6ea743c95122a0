import Discography.Number.Binary64

/-!
# JSON values

Numbers are kept as they are written: integers are exact, and a numeral with a fraction or an
exponent stays a decimal numeral. The three words for values that are no numbers are admitted.
An object is the list of its members in text order, repeats included.

* `last?_append` — the member that counts is the last one of its name.
-/

set_option autoImplicit false

namespace Discography.Json

open Discography.Number

/-- The words `NaN`, `Infinity` and `-Infinity`. -/
inductive Special where
  | nan
  | infinity
  | negativeInfinity
  deriving DecidableEq, Repr

/-- A JSON value. -/
inductive Value where
  | null
  | bool (b : Bool)
  | integer (n : Int)
  | decimal (d : Decimal)
  | special (s : Special)
  | text (s : String)
  | array (items : List Value)
  | object (members : List (String × Value))
  deriving Repr, Inhabited

/-- The value of the last member of a name. -/
def last? (name : String) (members : List (String × Value)) : Option Value :=
  (members.reverse.find? fun m => m.1 == name).map (·.2)

theorem last?_append (name : String) (a b : List (String × Value)) :
    last? name (a ++ b) = (last? name b).or (last? name a) := by
  unfold last?
  rw [List.reverse_append, List.find?_append]
  cases List.find? (fun m => m.1 == name) b.reverse <;> rfl

namespace Value

/-- The members of an object. -/
def members? : Value → Option (List (String × Value))
  | .object ms => some ms
  | _ => none

/-- The member of an object that counts for a name. -/
def get? (v : Value) (name : String) : Option Value := v.members?.bind (last? name)

/-- An integer that is not negative. -/
def ofNat (n : Nat) : Value := .integer n

/-- A text, or null if there is none. -/
def ofText? : Option String → Value
  | some s => .text s
  | none => .null

end Value

end Discography.Json
