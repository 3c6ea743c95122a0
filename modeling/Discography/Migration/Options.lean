import Discography.Text.Numeral

/-!
# Options with references

The options of a configuration file. A value may refer to another option of the file by its name in
parentheses between a percent sign and the letter `s`; a percent sign itself is written twice.

* `expand_doubled` — a text whose percent signs are doubled is read back as it is.
* `isWellFormed_doubled` — such a text can be stored.
-/

set_option autoImplicit false

namespace Discography.Migration

open Discography.Text

/-- A text with every percent sign written twice. -/
def doubled : List Char → List Char
  | [] => []
  | c :: r => if c = '%' then '%' :: '%' :: doubled r else c :: doubled r

/-- The name of a reference, after its percent sign and parenthesis, and what follows. -/
def reference? (s : List Char) : Option (List Char × List Char) :=
  match s.takeWhile (· != ')'), s.dropWhile (· != ')') with
  | [], _ => none
  | name, ')' :: 's' :: r => some (name, r)
  | _, _ => none

theorem length_reference? {s name r : List Char} (h : reference? s = some (name, r)) :
    r.length < s.length := by
  unfold reference? at h
  split at h
  · cases h
  · next hd _ =>
    cases h
    have := (List.dropWhile_sublist (l := s) (· != ')')).length_le
    rw [hd] at this
    simp only [List.length_cons] at this
    omega
  · cases h

/-- The greatest number of references within references. -/
def maxDepth : Nat := 9

/-- A value with its references replaced by the values of the options; `depth` more levels of
references may be followed. A percent sign that begins neither is refused. -/
def expand (lookup : List Char → Option (List Char)) (depth : Nat) (s : List Char) :
    Option (List Char) :=
  match s with
  | [] => some []
  | '%' :: '%' :: r => (expand lookup depth r).map ('%' :: ·)
  | '%' :: '(' :: r =>
    match _h : reference? r with
    | none => none
    | some (name, rest) =>
      match lookup name, depth with
      | none, _ => none
      | some v, 0 => if '%' ∈ v then none else (expand lookup 0 rest).map (v ++ ·)
      | some v, depth + 1 => do
        let v ← expand lookup depth v
        let rest ← expand lookup (depth + 1) rest
        pure (v ++ rest)
  | '%' :: _ => none
  | c :: r => (expand lookup depth r).map (c :: ·)
termination_by (depth, s.length)
decreasing_by
  all_goals
    first
    | (apply Prod.Lex.left; omega)
    | (apply Prod.Lex.right
       have := length_reference? ‹_›
       simp only [List.length_cons]
       omega)
    | (apply Prod.Lex.right; simp only [List.length_cons]; omega)

/-- A text without its references. -/
def withoutReferences (s : List Char) : List Char :=
  match s with
  | [] => []
  | '%' :: '(' :: r =>
    match _h : reference? r with
    | none => '%' :: '(' :: withoutReferences r
    | some (_, rest) => withoutReferences rest
  | c :: r => c :: withoutReferences r
termination_by s.length
decreasing_by
  · simp only [List.length_cons]; omega
  · have := length_reference? _h
    simp only [List.length_cons]
    omega
  · simp only [List.length_cons]; omega

/-- Whether a value can be stored: no percent sign is left without the doubled ones and without the
references. -/
def isWellFormed (s : List Char) : Bool := !(withoutReferences (erase ['%', '%'] s)).contains '%'

theorem expand_doubled (lookup : List Char → Option (List Char)) (depth : Nat) (s : List Char) :
    expand lookup depth (doubled s) = some s := by
  induction s with
  | nil => simp [doubled, expand]
  | cons c r ih =>
    by_cases h : c = '%'
    · subst h
      simp [doubled, expand, ih]
    · simp only [doubled, if_neg h]
      rw [expand.eq_def]
      split <;> simp_all

theorem erase_doubled (s : List Char) : erase ['%', '%'] (doubled s) = s.filter (· != '%') := by
  induction s with
  | nil => rfl
  | cons c r ih =>
    by_cases h : c = '%'
    · subst h
      simpa [doubled, erase, eraseFrom] using ih
    · simpa [doubled, erase, eraseFrom, h, Ne.symm h] using ih

theorem withoutReferences_eq {s : List Char} (h : '%' ∉ s) : withoutReferences s = s := by
  induction s with
  | nil => simp [withoutReferences]
  | cons c r ih =>
    simp only [List.mem_cons, not_or] at h
    rw [withoutReferences.eq_def]
    split <;> simp_all

theorem isWellFormed_doubled (s : List Char) : isWellFormed (doubled s) = true := by
  have h : '%' ∉ s.filter (· != '%') := by simp
  simp [isWellFormed, erase_doubled, withoutReferences_eq h]

/-! ## Files of options -/

/-- The options of a file, the last one of a name counting. -/
abbrev Options := List (String × String)

namespace Options

/-- The value of an option as it is written. -/
def raw? (o : Options) (name : String) : Option String := o.reverse.lookup name

/-- The options with a value stored under a name, unless the value is not well formed. -/
def set? (o : Options) (name value : String) : Option Options :=
  if isWellFormed value.toList then some (o ++ [(name, value)]) else none

/-- The value of an option with its references replaced; `none` if they cannot be, and an absent
option has no value. -/
def get? (o : Options) (name : String) : Option (Option String) :=
  match o.raw? name with
  | none => some none
  | some value =>
    let lookup := fun name : List Char =>
      (o.raw? (String.ofList (name.map Char.toLower))).map String.toList
    (expand lookup maxDepth value.toList).map fun s => some (String.ofList s)

/-- All options with their references replaced, unless those of one cannot be. -/
def readAll? (o : Options) : Option Options :=
  o.mapM fun p => (o.get? p.1).map fun value => (p.1, value.getD p.2)

/-! ### Texts of options -/

/-- Whether a line without the blanks around it says nothing. -/
def isRemark : List Char → Bool
  | [] => true
  | c :: _ => c == '#' || c == ';'

/-- The option of a line: its name in lower case, an equals sign or a colon, and its value. -/
def ofLine? (line : List Char) : Option (String × String) :=
  let separates := fun c : Char => c == '=' || c == ':'
  match line.dropWhile (!separates ·) with
  | [] => none
  | _ :: value =>
    let name := trim isSpacing (line.takeWhile (!separates ·))
    some (String.ofList (name.map Char.toLower), String.ofList (trim isSpacing value))

/-- The options of a section on lines without the blanks around them, each with its value on its
line; `inside` tells whether the lines begin in that section. -/
def ofLines (name : List Char) (inside : Bool) : List (List Char) → Options
  | [] => []
  | line :: rest =>
    if isRemark line then ofLines name inside rest
    else
      match line with
      | '[' :: r => ofLines name (r.takeWhile (· != ']') == name) rest
      | _ => (if inside then (ofLine? line).toList else []) ++ ofLines name inside rest

/-- The options of migrations that the text of a file in a directory holds. -/
def ofText (directory text : String) : Options :=
  ("here", directory) ::
    ofLines "alembic".toList false ((text.toList.splitOn '\n').map (trim isSpacing))

end Options

end Discography.Migration
