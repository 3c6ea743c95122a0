import Discography.Failure
import Discography.Log.Shown

/-!
# Message templates

A message may be a template whose conversions are replaced by arguments. A conversion begins with a
percent sign and has a name in parentheses, flags, a width and a precision, all optional, and a
letter that says how its argument is written. Two percent signs stand for one.
-/

set_option autoImplicit false

namespace Discography.Log

open Discography.Json Discography.Number Discography.Text

/-- Why a template cannot be filled. -/
inductive TemplateError where
  | notEnough
  | leftOver
  | needsMapping
  | listNeedsIndex
  | missingKey (name : String)
  | incompleteKey
  | incomplete
  | widthKind
  | widthTooBig
  | widthRange
  | precisionTooBig
  | precisionRange
  | unknownLetter (letter : Char) (index : Nat)
  | needsInteger (letter : Char) (kind : String)
  | needsReal (letter : Char) (kind : String)
  | needsFloat (kind : String)
  | floatRange
  | infinite
  | notANumber
  | needsCharacter
  | characterRange
  deriving DecidableEq, Repr

/-- The letter of an unknown conversion as far as it can be shown. -/
def letterText (c : Char) : String :=
  (if 31 ≤ c.toNat ∧ c.toNat ≤ 126 then c else '?').toString

/-- A template error as a failure. -/
def TemplateError.failure : TemplateError → Failure
  | .notEnough => .fault .type "not enough arguments for format string"
  | .leftOver => .fault .type "not all arguments converted during string formatting"
  | .needsMapping => .fault .type "format requires a mapping"
  | .listNeedsIndex => .fault .type "list indices must be integers or slices, not str"
  | .missingKey name => .fault .key name
  | .incompleteKey => .fault .value "incomplete format key"
  | .incomplete => .fault .value "incomplete format"
  | .widthKind => .fault .type "* wants int"
  | .widthTooBig => .fault .value "width too big"
  | .widthRange => .fault .overflow "Python int too large to convert to C ssize_t"
  | .precisionTooBig => .fault .value "precision too big"
  | .precisionRange => .fault .overflow "Python int too large to convert to C int"
  | .unknownLetter letter index =>
    .fault .value ("unsupported format character \x27" ++ letterText letter ++ "\x27 (0x" ++
      String.ofList (Nat.toDigits 16 letter.toNat) ++ ") at index " ++ decimal index)
  | .needsInteger letter kind =>
    .fault .type ("%" ++ letter.toString ++ " format: an integer is required, not " ++ kind)
  | .needsReal letter kind =>
    .fault .type ("%" ++ letter.toString ++ " format: a real number is required, not " ++ kind)
  | .needsFloat kind => .fault .type ("must be real number, not " ++ kind)
  | .floatRange => .fault .overflow "int too large to convert to float"
  | .infinite => .fault .overflow "cannot convert float infinity to integer"
  | .notANumber => .fault .value "cannot convert float NaN to integer"
  | .needsCharacter => .fault .type "%c requires int or char"
  | .characterRange => .fault .overflow "%c arg not in range(0x110000)"

/-- What fills a template: values in turn, or one value. -/
inductive Arguments where
  | inTurn (values : List Value)
  | one (value : Value)
  deriving Repr

/-- The arguments that are left, and the value in which names are looked up, if there is one. -/
structure Feed where
  pending : List Value
  mapping : Option Value
  deriving Repr

/-- The feed of arguments: names are looked up in a single mapping or list. -/
def Arguments.feed : Arguments → Feed
  | .inTurn values => ⟨values, none⟩
  | .one (.object ms) => ⟨[.object ms], some (.object ms)⟩
  | .one (.array vs) => ⟨[.array vs], some (.array vs)⟩
  | .one v => ⟨[v], none⟩

/-- The next argument. -/
def Feed.next (f : Feed) : Except TemplateError (Value × Feed) :=
  match f.pending with
  | [] => .error .notEnough
  | v :: vs => .ok (v, { f with pending := vs })

/-- The feed of the value of a name. -/
def Feed.named (f : Feed) (name : String) : Except TemplateError Feed :=
  match f.mapping with
  | none => .error .needsMapping
  | some (.object ms) =>
    match last? name ms with
    | some v => .ok { f with pending := [v] }
    | none => .error (.missingKey name)
  | some _ => .error .listNeedsIndex

/-! ## Reading a conversion -/

/-- The flags of a conversion. -/
structure Flags where
  left : Bool := false
  plus : Bool := false
  blank : Bool := false
  alternate : Bool := false
  zero : Bool := false
  deriving DecidableEq, Repr

/-- How the argument of a conversion is written. -/
structure Conversion where
  flags : Flags
  width : Option Nat
  precision : Option Nat
  letter : Char
  deriving DecidableEq, Repr

/-- The flags at the start of a text, and what follows them. -/
def readFlags (f : Flags) : List Char → Flags × List Char
  | '-' :: r => readFlags { f with left := true } r
  | '+' :: r => readFlags { f with plus := true } r
  | ' ' :: r => readFlags { f with blank := true } r
  | '#' :: r => readFlags { f with alternate := true } r
  | '0' :: r => readFlags { f with zero := true } r
  | r => (f, r)

/-- The name up to the closing parenthesis that matches one opened before, and what follows. -/
def readName : Nat → List Char → Option (List Char × List Char)
  | _, [] => none
  | depth, ')' :: r =>
    match depth with
    | 0 => some ([], r)
    | depth + 1 => (readName depth r).map fun p => (')' :: p.1, p.2)
  | depth, '(' :: r => (readName (depth + 1) r).map fun p => ('(' :: p.1, p.2)
  | depth, c :: r => (readName depth r).map fun p => (c :: p.1, p.2)

/-- The number of a run of digits, unless some part of it goes beyond a limit. -/
def boundedNumber (limit : Nat) (digits : List Char) : Option Nat :=
  digits.foldl (fun n c =>
    n.bind fun n =>
      let d := c.toNat - '0'.toNat
      if (limit - d) / 10 < n then none else some (n * 10 + d)) (some 0)

/-- The integer that an argument gives for a width or a precision. -/
def sizeArgument : Value → Except TemplateError Int
  | .integer n => .ok n
  | .bool b => .ok (if b then 1 else 0)
  | _ => .error .widthKind

/-- The greatest width. -/
def widthLimit : Nat := 1 <<< 63 - 1

/-- The greatest precision. -/
def precisionLimit : Nat := 1 <<< 31 - 1

/-- Whether an integer lies between the negation of `limit + 1` and `limit`. -/
def fits (limit : Nat) (n : Int) : Bool := decide (-(limit : Int) - 1 ≤ n ∧ n ≤ limit)

/-- An ASCII digit. -/
def isDigit (c : Char) : Bool := (asciiDigit? c).isSome

/-- The width at the start of a text, the feed after it, and what follows. A negative width from an
argument sets the left flag. -/
def readWidth (f : Feed) (flags : Flags) (s : List Char) :
    Except TemplateError (Flags × Option Nat × Feed × List Char) := do
  match s with
  | '*' :: r =>
    let (v, f) ← f.next
    let n ← sizeArgument v
    if !fits widthLimit n then .error .widthRange
    else .ok (if n < 0 then { flags with left := true } else flags, some n.natAbs, f, r)
  | _ =>
    match s.takeWhile isDigit with
    | [] => .ok (flags, none, f, s)
    | digits =>
      match boundedNumber widthLimit digits with
      | some n => .ok (flags, some n, f, s.dropWhile isDigit)
      | none => .error .widthTooBig

/-- The precision at the start of a text, the feed after it, and what follows. A point alone and a
negative argument stand for zero. -/
def readPrecision (f : Feed) (s : List Char) :
    Except TemplateError (Option Nat × Feed × List Char) := do
  match s with
  | '.' :: '*' :: r =>
    let (v, f) ← f.next
    let n ← sizeArgument v
    if !fits precisionLimit n then .error .precisionRange
    else .ok (some n.toNat, f, r)
  | '.' :: r =>
    match boundedNumber precisionLimit (r.takeWhile isDigit) with
    | some n => .ok (some n, f, r.dropWhile isDigit)
    | none => .error .precisionTooBig
  | _ => .ok (none, f, s)

/-- A text without one of the letters that once told the size of an argument. -/
def skipSize : List Char → List Char
  | c :: r => if c = 'h' ∨ c = 'l' ∨ c = 'L' then r else c :: r
  | [] => []

/-- A conversion, after its percent sign, the feed after it, and what follows. -/
def readConversion (f : Feed) (s : List Char) :
    Except TemplateError (Conversion × Feed × List Char) := do
  let (f, s) ← match s with
    | '(' :: r =>
      match f.mapping with
      | none => .error .needsMapping
      | some _ =>
        match readName 0 r with
        | none => .error .incompleteKey
        | some (name, t) =>
          let f ← f.named (String.ofList name)
          pure (f, t)
    | _ => pure (f, s)
  let (flags, s) := readFlags {} s
  let (flags, width, f, s) ← readWidth f flags s
  let (precision, f, s) ← readPrecision f s
  match skipSize s with
  | [] => .error .incomplete
  | letter :: r => .ok (⟨flags, width, precision, letter⟩, f, r)

/-! ## Writing an argument -/

/-- The written form of an argument: a sign, the mark of its base, and its body. Only the body of a
number may be filled with zeros. -/
structure Piece where
  sign : List Char := []
  mark : List Char := []
  body : List Char
  isNumber : Bool := false
  deriving DecidableEq, Repr

/-- A piece with the sign that the flags ask for. -/
def Piece.signed (p : Piece) (flags : Flags) : Piece :=
  if !p.isNumber || !p.sign.isEmpty then p
  else if flags.plus then { p with sign := ['+'] }
  else if flags.blank then { p with sign := [' '] }
  else p

/-- A piece filled up to the width of its conversion. -/
def Piece.layOut (p : Piece) (c : Conversion) : List Char :=
  let p := p.signed c.flags
  let head := p.sign ++ p.mark
  let missing := c.width.getD 0 - (head.length + p.body.length)
  if c.flags.left then head ++ p.body ++ List.replicate missing ' '
  else if p.isNumber && c.flags.zero then head ++ List.replicate missing '0' ++ p.body
  else List.replicate missing ' ' ++ head ++ p.body

/-- The digits of a natural number in a base, at least as many as the precision asks for. -/
def digitsIn (base : Nat) (precision : Option Nat) (n : Nat) : List Char :=
  let digits := Nat.toDigits base n
  List.replicate (precision.getD 0 - digits.length) '0' ++ digits

/-- An integer in a base. -/
def integerPiece (base : Nat) (mark : List Char) (c : Conversion) (n : Int) : Piece :=
  { sign := if n < 0 then ['-'] else []
    mark := if c.flags.alternate then mark else []
    body := digitsIn base c.precision n.natAbs
    isNumber := true }

/-- The integer that an argument gives for a conversion to base ten. -/
def wholeArgument (letter : Char) : Value → Except TemplateError Int
  | .integer n => .ok n
  | .bool b => .ok (if b then 1 else 0)
  | .decimal d =>
    match d.toBinary64 with
    | .finite negative significand exponent =>
      .ok (Binary64.truncate negative significand exponent)
    | .infinity _ => .error .infinite
    | .nan => .error .notANumber
  | .special .nan => .error .notANumber
  | .special _ => .error .infinite
  | v => .error (.needsReal letter (kindWord v))

/-- The integer that an argument gives for a conversion to base eight or sixteen. -/
def indexArgument (letter : Char) : Value → Except TemplateError Int
  | .integer n => .ok n
  | .bool b => .ok (if b then 1 else 0)
  | v => .error (.needsInteger letter (kindWord v))

/-- The number of the 64-bit format that an argument gives. -/
def floatArgument : Value → Except TemplateError Binary64
  | .integer n =>
    match Binary64.ofInt n with
    | .infinity _ => .error .floatRange
    | x => .ok x
  | .bool b => .ok (.ofInt (if b then 1 else 0))
  | .decimal d => .ok d.toBinary64
  | .special .nan => .ok .nan
  | .special .infinity => .ok (.infinity false)
  | .special .negativeInfinity => .ok (.infinity true)
  | v => .error (.needsFloat (kindWord v))

/-- A number of the 64-bit format as a piece. -/
def floatPiece (layout : Number.Layout) (capital : Bool) (c : Conversion) (x : Binary64) : Piece :=
  let chars := x.withPrecision layout (c.precision.getD 6) c.flags.alternate
  let chars := if capital then chars.map Char.toUpper else chars
  match chars with
  | '-' :: body => { sign := ['-'], body, isNumber := true }
  | body => { body, isNumber := true }

/-- The character that an argument gives. -/
def characterArgument : Value → Except TemplateError Char
  | .text s =>
    match s.toList with
    | [c] => .ok c
    | _ => .error .needsCharacter
  | .integer n =>
    if 0 ≤ n ∧ n < 0x110000 then .ok (Char.ofNat n.toNat) else .error .characterRange
  | .bool b => .ok (Char.ofNat (if b then 1 else 0))
  | _ => .error .needsCharacter

/-- A text cut to the precision of its conversion. -/
def textPiece (c : Conversion) (s : String) : Piece :=
  { body := match c.precision with
      | some n => s.toList.take n
      | none => s.toList }

/-- An argument as a piece. The index of the letter in the template is used in reports. -/
def piece (c : Conversion) (index : Nat) (v : Value) : Except TemplateError Piece :=
  match c.letter with
  | 's' => .ok (textPiece c (shown v))
  | 'r' => .ok (textPiece c (inside v))
  | 'a' => .ok (textPiece c (asciiOnly (inside v)))
  | 'd' => (wholeArgument 'd' v).map (integerPiece 10 [] c)
  | 'i' => (wholeArgument 'i' v).map (integerPiece 10 [] c)
  | 'u' => (wholeArgument 'u' v).map (integerPiece 10 [] c)
  | 'o' => (indexArgument 'o' v).map (integerPiece 8 ['0', 'o'] c)
  | 'x' => (indexArgument 'x' v).map (integerPiece 16 ['0', 'x'] c)
  | 'X' => (indexArgument 'X' v).map fun n =>
    let p := integerPiece 16 ['0', 'X'] c n
    { p with body := p.body.map Char.toUpper }
  | 'e' => (floatArgument v).map (floatPiece .exponent false c)
  | 'E' => (floatArgument v).map (floatPiece .exponent true c)
  | 'f' => (floatArgument v).map (floatPiece .fixed false c)
  | 'F' => (floatArgument v).map (floatPiece .fixed true c)
  | 'g' => (floatArgument v).map (floatPiece .general false c)
  | 'G' => (floatArgument v).map (floatPiece .general true c)
  | 'c' => (characterArgument v).map fun ch => { body := [ch] }
  | letter => .error (.unknownLetter letter index)

/-- A template filled from a feed. Every step consumes something, so that the length of the template
is enough fuel; `size` is the length of the whole template. -/
def fillFrom (size : Nat) : Nat → Feed → List Char → Except TemplateError (List Char)
  | 0, _, _ => .ok []
  | _ + 1, f, [] =>
    if !f.pending.isEmpty && f.mapping.isNone then .error .leftOver else .ok []
  | fuel + 1, f, '%' :: '%' :: r => (fillFrom size fuel f r).map ('%' :: ·)
  | fuel + 1, f, '%' :: s => do
    let (c, f, r) ← readConversion f s
    let (v, f) ← f.next
    let p ← piece c (size - r.length - 1) v
    if f.mapping.isSome && !f.pending.isEmpty then .error .leftOver
    else
      let rest ← fillFrom size fuel f r
      pure (p.layOut c ++ rest)
  | fuel + 1, f, c :: r => (fillFrom size fuel f r).map (c :: ·)

/-- A template filled with arguments. -/
def fill (template : String) (arguments : Arguments) : Except TemplateError String :=
  let chars := template.toList
  (fillFrom chars.length (chars.length + 1) arguments.feed chars).map String.ofList

end Discography.Log
