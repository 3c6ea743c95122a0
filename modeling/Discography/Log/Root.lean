import Discography.Log.Record

/-!
# The root of logging

All records go to one root, which has a level and handlers. A record below the level is not written;
each handler writes any other record in its form. Without handlers, records from warnings on are
written as their messages alone.

* `handlers_setUp` — after a set-up there is exactly one handler, of the form that was asked for.
* `level_setUp` — a set-up leaves the level that its word stands for.
-/

set_option autoImplicit false

namespace Discography.Log

open Discography.Text

/-- How a handler writes records. -/
inductive Form where
  | json
  | text
  /-- The message alone. -/
  | bare
  deriving DecidableEq, Repr

/-- The name of a form. -/
def Form.name : Form → String
  | .json => "json"
  | .text => "text"
  | .bare => "none"

/-- The form that a word stands for. -/
def Form.ofWord (word : String) : Form := if word = "json" then .json else .text

/-- A record in a form. -/
def Form.write : Form → Record → Except Failure String
  | .json, r => r.jsonLine
  | .text, r => r.plainText
  | .bare, r => r.bareText

/-! ## Words for levels -/

/-- The upper case of a character, as far as it consists of ASCII characters. -/
def upperChars (c : Char) : List Char :=
  match c with
  | 'ß' => ['S', 'S']
  | 'ı' => ['I']
  | 'ſ' => ['S']
  | 'ﬀ' => ['F', 'F']
  | 'ﬁ' => ['F', 'I']
  | 'ﬂ' => ['F', 'L']
  | 'ﬃ' => ['F', 'F', 'I']
  | 'ﬄ' => ['F', 'F', 'L']
  | 'ﬅ' | 'ﬆ' => ['S', 'T']
  | c => [c.toUpper]

/-- A word in upper case. Characters whose upper case is beyond ASCII are left, since no word for a
level has them. -/
def upperWord (s : String) : String := String.ofList (s.toList.flatMap upperChars)

/-- The word for the default form of messages, which is no level. -/
def formWord : String := "BASIC_FORMAT"

/-- The word for the styles of templates, which is no level. -/
def stylesWord : String := "_STYLES"

/-- The failure of a level that is the default form of messages. -/
def levelIsForm : Failure :=
  .fault .value "Unknown level: \x27%(levelname)s:%(name)s:%(message)s\x27"

/-- The failure of a level that is the table of template styles. -/
def levelIsStyles : Failure :=
  let style := fun (mark name : String) (template : String) =>
    "\x27" ++ mark ++ "\x27: (<class \x27logging." ++ name ++ "\x27>, \x27" ++ template ++ "\x27)"
  .fault .type ("Level not an integer or a valid string: \x7b" ++ ", ".intercalate
    [style "%" "PercentStyle" "%(levelname)s:%(name)s:%(message)s",
     style "\x7b" "StrFormatStyle" "\x7blevelname\x7d:\x7bname\x7d:\x7bmessage\x7d",
     style "$" "StringTemplateStyle"
       "$\x7blevelname\x7d:$\x7bname\x7d:$\x7bmessage\x7d"] ++ "\x7d")

/-- The level that a word stands for: information unless the word is known. Two words name things
that are no levels. -/
def levelOfWord (word : String) : Except Failure Int :=
  let upper := upperWord word
  match levelWords.lookup upper with
  | some n => .ok n
  | none =>
    if upper = formWord then .error levelIsForm
    else if upper = stylesWord then .error levelIsStyles
    else .ok Level.info.number

/-! ## The root -/

/-- The level and the handlers of the root. -/
structure Root where
  level : Int := Level.warning.number
  handlers : List Form := []
  deriving DecidableEq, Repr

namespace Root

/-- The root with one handler for a word, and the level of another word. The handler is replaced
even if the level cannot be set. -/
def setUp (r : Root) (level format : String) : Except Failure Unit × Root :=
  let handlers := [Form.ofWord format]
  match levelOfWord level with
  | .ok n => (.ok (), ⟨n, handlers⟩)
  | .error f => (.error f, { r with handlers })

theorem handlers_setUp (r : Root) (level format : String) :
    (r.setUp level format).2.handlers = [Form.ofWord format] := by
  unfold setUp
  dsimp only
  split <;> rfl

theorem level_setUp {r : Root} {level format : String} {n : Int} (h : levelOfWord level = .ok n) :
    r.setUp level format = (.ok (), ⟨n, [Form.ofWord format]⟩) := by
  simp [setUp, h]

/-- Whether records of a level are written. -/
def isEnabled (r : Root) (level : Int) : Bool := decide (0 < level ∧ r.level ≤ level)

/-- The forms in which records of a level are written. -/
def formsFor (r : Root) (level : Int) : List Form :=
  if !r.isEnabled level then []
  else if r.handlers.isEmpty then
    if Level.warning.number ≤ level then [.bare] else []
  else r.handlers

/-- The text that is written for a record. A form that fails writes nothing. -/
def write (r : Root) (record : Record) : String :=
  String.join ((r.formsFor record.level).filterMap fun form =>
    ((form.write record).toOption).map (· ++ "\n"))

end Root

/-- An event with the form in which it is written. -/
structure Entry where
  form : Form
  event : Event
  deriving DecidableEq, Repr

/-- The entries of an event, one for each handler. -/
def Root.entries (r : Root) (e : Event) : List Entry :=
  (r.formsFor e.level.number).map fun form => ⟨form, e⟩

end Discography.Log
