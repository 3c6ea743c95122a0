import Discography.Json.Reader

/-!
# The grammar of JSON texts

Which characters spell which value, told without a reader. Every rule relates a text to what it
stands for. Values nest by levels: those of one level are scalars and empty containers, and a
container of one more level holds values of the level below.

* `StringBody` — what stands between two quotes; `Escape` holds the escapes in it.
* `Numeral` — the numbers; without a fraction and an exponent they are integers.
* `Separated`, `Enclosed` — elements with commas between them, and brackets around those.
* `Spells` — the values of a level; `Document` is a value with nothing but blanks around it.
* `Padded.imp` to `Spells.mono` — what an element may be besides, so may what it stands in.
-/

set_option autoImplicit false

namespace Discography.Json

open Discography.Number

/-! ## Blanks -/

/-- Blanks alone: spaces, tabs and the two line ends. -/
def Gap (s : List Char) : Prop := ∀ c ∈ s, c = ' ' ∨ c = '\t' ∨ c = '\n' ∨ c = '\r'

/-- A text with blanks around it that stand for nothing. -/
inductive Padded {α : Type} (P : List Char → α → Prop) : List Char → α → Prop
  | intro {g s g' : List Char} {x : α} (before : Gap g) (core : P s x) (after : Gap g') :
      Padded P (g ++ s ++ g') x

/-! ## Strings -/

/-- A digit in base sixteen, in either case, and its value. -/
inductive HexDigit : Char → Nat → Prop
  | decimal {c : Char} (range : '0' ≤ c ∧ c ≤ '9') : HexDigit c (c.toNat - '0'.toNat)
  | lower {c : Char} (range : 'a' ≤ c ∧ c ≤ 'f') : HexDigit c (c.toNat - 'a'.toNat + 10)
  | upper {c : Char} (range : 'A' ≤ c ∧ c ≤ 'F') : HexDigit c (c.toNat - 'A'.toNat + 10)

/-- Four digits in base sixteen and the 16-bit unit that they are. -/
inductive HexUnit : List Char → Nat → Prop
  | intro {a b c d : Char} {w x y z : Nat} (ha : HexDigit a w) (hb : HexDigit b x)
      (hc : HexDigit c y) (hd : HexDigit d z) :
      HexUnit [a, b, c, d] (w * 4096 + x * 256 + y * 16 + z)

/-- The letters that may follow a backslash, and the characters that they stand for. -/
def letterEscapes : List (Char × Char) :=
  [('"', '"'), ('\\', '\\'), ('/', '/'), ('b', '\x08'), ('f', '\x0c'), ('n', '\n'), ('r', '\r'),
    ('t', '\t')]

/-- What may follow a backslash, and the character that it stands for. A unit stands for the
character of its number, which is no half of a pair; two halves stand for one character. -/
inductive Escape : List Char → Char → Prop
  | letter {x c : Char} (mem : (x, c) ∈ letterEscapes) : Escape [x] c
  | unit {s : List Char} {c : Char} (unit : HexUnit s c.toNat) : Escape ('u' :: s) c
  | pair {s t : List Char} {high low : Nat} {c : Char} (first : HexUnit s high)
      (second : HexUnit t low) (isHigh : 0xD800 ≤ high ∧ high < 0xDC00)
      (isLow : 0xDC00 ≤ low ∧ low < 0xE000)
      (value : c.toNat = 0x10000 + (high - 0xD800) * 0x400 + (low - 0xDC00)) :
      Escape ('u' :: s ++ '\\' :: 'u' :: t) c

/-- What stands between two quotes, and the characters that it stands for. -/
inductive StringBody : List Char → List Char → Prop
  | nil : StringBody [] []
  | plain {c : Char} {s cs : List Char} (printable : ' ' ≤ c) (noQuote : c ≠ '"')
      (noBackslash : c ≠ '\\') (rest : StringBody s cs) : StringBody (c :: s) (c :: cs)
  | escape {e s cs : List Char} {c : Char} (escape : Escape e c) (rest : StringBody s cs) :
      StringBody ('\\' :: e ++ s) (c :: cs)

/-- A text between quotes, and the string that it stands for. -/
inductive Quoted : List Char → String → Prop
  | intro {s : List Char} {x : String} (body : StringBody s x.toList) : Quoted ('"' :: s ++ ['"']) x

/-! ## Numbers -/

/-- The number of a text of ASCII digits. -/
def valueOf (ds : List Char) : Nat := Nat.ofDigitChars 10 ds 0

/-- One ASCII digit or more. -/
structure DigitRun (ds : List Char) : Prop where
  ne_nil : ds ≠ []
  isDigit : ∀ c ∈ ds, c.isDigit = true

/-- An optional minus sign, and whether it is there. -/
inductive Minus : List Char → Bool → Prop
  | absent : Minus [] false
  | present : Minus ['-'] true

/-- An integer part: a zero alone, or digits that do not begin with one. -/
inductive Whole : List Char → Prop
  | zero : Whole ['0']
  | positive {ds : List Char} (run : DigitRun ds) (first : ds.head? ≠ some '0') : Whole ds

/-- An optional fraction, and its digits. -/
inductive Fraction : List Char → List Char → Prop
  | absent : Fraction [] []
  | present {ds : List Char} (run : DigitRun ds) : Fraction ('.' :: ds) ds

/-- An optional exponent, and its value. -/
inductive Exponent : List Char → Option Int → Prop
  | absent : Exponent [] none
  | bare {mark : Char} {ds : List Char} (isMark : mark = 'e' ∨ mark = 'E') (run : DigitRun ds) :
      Exponent (mark :: ds) (some (valueOf ds))
  | plus {mark : Char} {ds : List Char} (isMark : mark = 'e' ∨ mark = 'E') (run : DigitRun ds) :
      Exponent (mark :: '+' :: ds) (some (valueOf ds))
  | minus {mark : Char} {ds : List Char} (isMark : mark = 'e' ∨ mark = 'E') (run : DigitRun ds) :
      Exponent (mark :: '-' :: ds) (some (-(valueOf ds : Int)))

/-- A number with a sign. -/
def signed (negative : Bool) (n : Nat) : Int := if negative then -(n : Int) else n

/-- An integer part with its sign that is not too long; the sign counts in some releases. -/
def FitsDigits (limits : Limits) (m ds : List Char) : Prop :=
  (if limits.countsMinus then (m ++ ds).length else ds.length) ≤ limits.digits

/-- A number, and its value. -/
inductive Numeral (limits : Limits) : List Char → Value → Prop
  | integer {m ds : List Char} {negative : Bool} (sign : Minus m negative) (whole : Whole ds)
      (short : FitsDigits limits m ds) :
      Numeral limits (m ++ ds) (.integer (signed negative (valueOf ds)))
  | decimal {m ds f fs e : List Char} {negative : Bool} {x : Option Int} (sign : Minus m negative)
      (whole : Whole ds) (short : FitsDigits limits m ds) (fraction : Fraction f fs)
      (exponent : Exponent e x) (more : f ++ e ≠ []) :
      Numeral limits (m ++ ds ++ f ++ e)
        (.decimal ⟨negative, valueOf (ds ++ fs), x.getD 0 - fs.length⟩)

/-! ## Values -/

/-- A value that is no container. -/
inductive Scalar (limits : Limits) : List Char → Value → Prop
  | null : Scalar limits "null".toList .null
  | true : Scalar limits "true".toList (.bool true)
  | false : Scalar limits "false".toList (.bool false)
  | nan : Scalar limits "NaN".toList (.special .nan)
  | infinity : Scalar limits "Infinity".toList (.special .infinity)
  | negativeInfinity : Scalar limits "-Infinity".toList (.special .negativeInfinity)
  | numeral {s : List Char} {v : Value} (numeral : Numeral limits s v) : Scalar limits s v
  | text {s : List Char} {x : String} (quoted : Quoted s x) : Scalar limits s (.text x)

/-- One element or more, with a comma between two of them. -/
inductive Separated {α : Type} (Element : List Char → α → Prop) : List Char → List α → Prop
  | last {s : List Char} {x : α} (element : Element s x) : Separated Element s [x]
  | more {s r : List Char} {x : α} {xs : List α} (element : Element s x)
      (rest : Separated Element r xs) : Separated Element (s ++ ',' :: r) (x :: xs)

/-- Elements between an opening and a closing character, or blanks alone between these. -/
inductive Enclosed {α : Type} (Element : List Char → α → Prop) (start stop : Char) :
    List Char → List α → Prop
  | empty {g : List Char} (gap : Gap g) : Enclosed Element start stop (start :: g ++ [stop]) []
  | elements {s : List Char} {xs : List α} (separated : Separated (Padded Element) s xs) :
      Enclosed Element start stop (start :: s ++ [stop]) xs

/-- A name, a colon and a value. -/
inductive Member (Inner : List Char → Value → Prop) : List Char → String × Value → Prop
  | intro {k g g' s : List Char} {name : String} {v : Value} (quoted : Quoted k name)
      (before : Gap g) (after : Gap g') (value : Inner s v) :
      Member Inner (k ++ g ++ ':' :: g' ++ s) (name, v)

/-- A container of values. -/
inductive Container (Inner : List Char → Value → Prop) : List Char → Value → Prop
  | array {s : List Char} {vs : List Value} (items : Enclosed Inner '[' ']' s vs) :
      Container Inner s (.array vs)
  | object {s : List Char} {ms : List (String × Value)}
      (members : Enclosed (Member Inner) '\x7b' '\x7d' s ms) : Container Inner s (.object ms)

/-- A value of at most so many levels: a scalar, or a container of values of one level less, which is
empty if there is none. -/
def Spells (limits : Limits) : Nat → List Char → Value → Prop
  | 0, _, _ => False
  | levels + 1, s, v => Scalar limits s v ∨ Container (Spells limits levels) s v

/-- One value within the limits, with nothing but blanks around it. There is one level more than
containers that have something in them may be nested. -/
def Document (limits : Limits) : List Char → Value → Prop :=
  Padded (Spells limits (limits.depth + 1))

/-! ## Elements -/

section Imp

variable {α : Type} {P Q : List Char → α → Prop}

theorem Padded.imp {s : List Char} {x : α} (h : Padded P s x) (f : ∀ s, P s x → Q s x) :
    Padded Q s x := by
  cases h with
  | intro before core after => exact .intro before (f _ core) after

theorem Separated.imp {s : List Char} {xs : List α} (h : Separated P s xs)
    (f : ∀ x ∈ xs, ∀ s, P s x → Q s x) : Separated Q s xs := by
  induction h with
  | last element => exact .last (f _ List.mem_cons_self _ element)
  | more element rest ih =>
    refine .more (f _ List.mem_cons_self _ element) (ih fun x hx => ?_)
    exact f x (List.mem_cons_of_mem _ hx)

theorem Enclosed.imp {start stop : Char} {s : List Char} {xs : List α}
    (h : Enclosed P start stop s xs) (f : ∀ x ∈ xs, ∀ s, P s x → Q s x) :
    Enclosed Q start stop s xs := by
  cases h with
  | empty gap => exact .empty gap
  | elements separated => exact .elements (separated.imp fun x hx _ hs => hs.imp (f x hx))

theorem Separated.exists_of_mem {s : List Char} {xs : List α} (h : Separated P s xs) {x : α}
    (hx : x ∈ xs) : ∃ t, P t x := by
  induction h with
  | last element => exact ⟨_, List.mem_singleton.1 hx ▸ element⟩
  | more element rest ih =>
    rcases List.mem_cons.1 hx with rfl | hx
    · exact ⟨_, element⟩
    · exact ih hx

/-- Each element is told by some text. -/
theorem Enclosed.exists_of_mem {start stop : Char} {s : List Char} {xs : List α}
    (h : Enclosed P start stop s xs) {x : α} (hx : x ∈ xs) : ∃ t, P t x := by
  cases h with
  | empty gap => cases hx
  | elements separated =>
    obtain ⟨t, ht⟩ := separated.exists_of_mem hx
    cases ht with
    | intro before core after => exact ⟨_, core⟩

end Imp

theorem Member.imp {P Q : List Char → Value → Prop} {s : List Char} {m : String × Value}
    (h : Member P s m) (f : ∀ s, P s m.2 → Q s m.2) : Member Q s m := by
  cases h with
  | intro quoted before after value => exact .intro quoted before after (f _ value)

theorem Container.imp {P Q : List Char → Value → Prop} {s : List Char} {v : Value}
    (h : Container P s v) (f : ∀ s v, P s v → Q s v) : Container Q s v := by
  cases h with
  | array items => exact .array (items.imp fun v _ s hs => f s v hs)
  | object members =>
    exact .object (members.imp fun m _ s hmember => hmember.imp fun s hs => f s m.2 hs)

/-- More levels do no harm. -/
theorem Spells.mono {limits : Limits} {levels levels' : Nat} {s : List Char} {v : Value}
    (h : Spells limits levels s v) (hle : levels ≤ levels') : Spells limits levels' s v := by
  induction levels generalizing levels' s v with
  | zero => exact h.elim
  | succ levels ih =>
    obtain ⟨levels', rfl⟩ := Nat.exists_eq_add_of_le' (Nat.one_le_of_lt hle)
    rcases h with h | h
    · exact .inl h
    · exact .inr (h.imp fun s v hs => ih hs (Nat.le_of_succ_le_succ hle))

end Discography.Json
