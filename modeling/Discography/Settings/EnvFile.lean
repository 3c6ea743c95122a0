import Discography.Text.Blank

/-!
# Files of variables

A file of variables has one binding a line: a name, an equals sign and a value, which may stand in
quotes and then run over several lines. A line may begin with the word `export` and end in a
comment. A line that is no binding is skipped. Values refer to variables by `${NAME}`, with a value
to take if there is none after `:-`.

* `read` gives the bindings of a file; `resolve` puts the variables into their values.
* `lookup_bind` — a later binding of a name replaces an earlier one.
* `lookup_filter` — bindings of other names make no difference.
-/

set_option autoImplicit false

namespace Discography.Settings.EnvFile

open Discography.Text

/-- A line end. -/
def isLineEnd (c : Char) : Bool := c == '\n' || c == '\r'

/-- A blank that ends no line. -/
def isInline (c : Char) : Bool := isSpacing c && !isLineEnd c

/-- A text with every line end written as a line feed. -/
def unixLines : List Char → List Char
  | '\r' :: '\n' :: r => '\n' :: unixLines r
  | '\r' :: r => '\n' :: unixLines r
  | c :: r => c :: unixLines r
  | [] => []

/-- What follows the word `export` and blanks, if the text starts with them. -/
def skipExport (s : List Char) : List Char :=
  let word := "export".toList
  if word.isPrefixOf s then
    match s.drop word.length with
    | c :: r => if isInline c then r.dropWhile isInline else s
    | [] => s
  else s

/-- The text before the first quote that no backslash precedes, and what follows that quote. If
there is none, the last quote ends the text, and its backslash belongs to the text. `read` holds the
characters before, last one first, and `spare` what to fall back on. -/
def untilQuote (q : Char) (read : List Char) (spare : Option (List Char × List Char)) :
    List Char → Option (List Char × List Char)
  | [] => spare
  | '\\' :: c :: r =>
    if c = q then
      untilQuote q (c :: '\\' :: read) (some (('\\' :: read).reverse, r)) r
    else untilQuote q ('\\' :: read) spare (c :: r)
  | c :: r => if c = q then some (read.reverse, r) else untilQuote q (c :: read) spare r

/-- The character that a letter stands for after a backslash in double quotes. -/
def doubleEscape? (c : Char) : Option Char :=
  if c = '\\' ∨ c = '\x27' ∨ c = '"' then some c
  else if c = 'a' then some '\x07'
  else if c = 'b' then some '\x08'
  else if c = 'f' then some '\x0c'
  else if c = 'n' then some '\n'
  else if c = 'r' then some '\r'
  else if c = 't' then some '\t'
  else if c = 'v' then some '\x0b'
  else none

/-- The character that stands for itself after a backslash in single quotes. -/
def singleEscape? (c : Char) : Option Char :=
  if c = '\\' ∨ c = '\x27' then some c else none

/-- A text with its escapes decoded; a backslash before any other character stays. -/
def decodeEscapes (escape? : Char → Option Char) : List Char → List Char
  | '\\' :: c :: r =>
    match escape? c with
    | some x => x :: decodeEscapes escape? r
    | none => '\\' :: decodeEscapes escape? (c :: r)
  | c :: r => c :: decodeEscapes escape? r
  | [] => []

/-- A text up to the first blank that only blanks separate from a number sign. -/
def withoutComment : List Char → List Char
  | [] => []
  | c :: r =>
    if isSpacing c && (r.dropWhile isSpacing).head? == some '#' then []
    else c :: withoutComment r

/-- A value without quotes, up to the end of its line, and what follows. -/
def plainValue (s : List Char) : List Char × List Char :=
  (trimRight isSpacing (withoutComment (s.takeWhile (!isLineEnd ·))), s.dropWhile (!isLineEnd ·))

/-- A value, and what follows it. -/
def value? : List Char → Option (List Char × List Char)
  | [] => some ([], [])
  | c :: r =>
    if c = '\x27' then
      (untilQuote c [] none r).map fun p => (decodeEscapes singleEscape? p.1, p.2)
    else if c = '"' then
      (untilQuote c [] none r).map fun p => (decodeEscapes doubleEscape? p.1, p.2)
    else if isLineEnd c then some ([], c :: r)
    else some (plainValue (c :: r))

/-- What follows a comment and blanks at the end of a line, if nothing else stands there. -/
def lineEnd? (s : List Char) : Option (List Char) :=
  let t := s.dropWhile isInline
  let u := if t.head? == some '#' then t.dropWhile (!isLineEnd ·) else t
  match u with
  | [] => some []
  | c :: r => if isLineEnd c then some r else none

/-- The name of a binding, none before a comment, and what follows it. -/
def key? (s : List Char) : Option (Option (List Char) × List Char) :=
  match s with
  | '#' :: _ => some (none, s)
  | '\x27' :: r =>
    match r.takeWhile (· != '\x27'), r.dropWhile (· != '\x27') with
    | [], _ => none
    | _, [] => none
    | name, _ :: t => some (some name, t)
  | _ =>
    let isName := fun c => c != '=' && c != '#' && !isSpacing c
    match s.takeWhile isName with
    | [] => none
    | name => some (some name, s.dropWhile isName)

/-- What a line says, and what follows it; where it says nothing, the rest of the line is skipped
from where reading stopped. A binding without an equals sign has no value. -/
def binding (s : List Char) : Option (List Char × Option (List Char)) × List Char :=
  let skip := fun t : List Char => (t.dropWhile (!isLineEnd ·)).drop 1
  match key? (skipExport s) with
  | none => (none, skip (skipExport s))
  | some (name, r) =>
    let after := r.dropWhile isInline
    let finish := fun (v : Option (List Char)) (t : List Char) =>
      match lineEnd? t with
      | some u => (name.map fun n => (n, v), u)
      | none => (none, skip t)
    match after with
    | '=' :: t =>
      let start := t.dropWhile isInline
      match value? start with
      | some (v, u) => finish (some v) u
      | none => (none, skip start)
    | _ => finish none after

/-- The bindings of a text, in text order. Each step consumes something, so that the length of the
text is enough fuel. -/
def bindings : Nat → List Char → List (String × Option String)
  | 0, _ => []
  | fuel + 1, s =>
    match s.dropWhile isSpacing with
    | [] => []
    | t =>
      let (found, rest) := binding t
      (found.map fun b => (String.ofList b.1, b.2.map String.ofList)).toList ++ bindings fuel rest

/-- The bindings of a file, in text order. -/
def read (file : String) : List (String × Option String) :=
  let s := unixLines file.toList
  bindings (s.length + 1) s

/-! ## References -/

/-- A reference after its dollar sign: the name, what to take if there is no such variable, and what
follows. -/
def reference? : List Char → Option (List Char × List Char × List Char)
  | '\x7b' :: r =>
    let isName := fun c => c != '\x7d' && c != ':'
    let name := r.takeWhile isName
    match r.dropWhile isName with
    | '\x7d' :: t => some (name, [], t)
    | ':' :: '-' :: t =>
      match t.dropWhile (· != '\x7d') with
      | _ :: u => some (name, t.takeWhile (· != '\x7d'), u)
      | [] => none
    | _ => none
  | _ => none

/-- A value with its references replaced, within the fuel of its length. -/
def substitute (lookup : String → Option (Option String)) : Nat → List Char → List Char
  | 0, s => s
  | _ + 1, [] => []
  | fuel + 1, c :: r =>
    if c = '$' then
      match reference? r with
      | some (name, fallback, t) =>
        let found := match lookup (String.ofList name) with
          | some (some v) => v.toList
          | some none => []
          | none => fallback
        found ++ substitute lookup fuel t
      | none => c :: substitute lookup fuel r
    else c :: substitute lookup fuel r

/-- Bindings with one more, which takes the place of the one with its name. -/
def bind (b : String × Option String) :
    List (String × Option String) → List (String × Option String)
  | [] => [b]
  | c :: r => if c.1 = b.1 then b :: r else c :: bind b r

theorem lookup_bind (b : String × Option String) (bound : List (String × Option String))
    (name : String) :
    (bind b bound).lookup name = if name = b.1 then some b.2 else bound.lookup name := by
  induction bound with
  | nil => grind [bind]
  | cons c r ih => grind [bind]

/-- Taking other names out makes no difference to what is found under a name. -/
theorem lookup_filter {α : Type} (keep : String → Bool) {name : String} (h : keep name = true)
    (bound : List (String × α)) :
    (bound.filter fun b => keep b.1).lookup name = bound.lookup name := by
  induction bound with
  | nil => rfl
  | cons b r ih =>
    by_cases hb : keep b.1 = true
    · rw [List.filter_cons_of_pos (by exact hb), List.lookup_cons, List.lookup_cons, ih]
    · have hne : name ≠ b.1 := by
        rintro rfl
        exact hb h
      rw [List.filter_cons_of_neg (by exact hb), List.lookup_cons, beq_eq_false_iff_ne.2 hne, ih]

/-- The last binding of each name, at the place of the first. -/
def settle (bound : List (String × Option String)) : List (String × Option String) :=
  bound.foldl (fun done b => bind b done) []

/-- What a name stands for in a value: an earlier binding of the file, else a variable of the
environment. -/
def meaning (environment : List (String × String)) (done : List (String × Option String))
    (name : String) : Option (Option String) :=
  match done.lookup name with
  | some v => some v
  | none => (environment.reverse.lookup name).map some

/-- Bindings with one more, the references in its value replaced. -/
def resolveOne (environment : List (String × String)) (done : List (String × Option String))
    (b : String × Option String) : List (String × Option String) :=
  let v := b.2.map fun t =>
    String.ofList (substitute (meaning environment done) (t.length + 1) t.toList)
  bind (b.1, v) done

/-- The last binding of each name, at the place of the first, with the references in its value
replaced. -/
def resolve (environment : List (String × String)) (bound : List (String × Option String)) :
    List (String × Option String) :=
  bound.foldl (resolveOne environment) []

end Discography.Settings.EnvFile
