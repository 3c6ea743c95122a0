import Discography.Failure
import Discography.Text.Numeral
import Discography.Text.Percent
import Discography.Text.Word

/-!
# Addresses of databases

The address of a database names a dialect, with or without a driver, and may give a user with a
password, a host with a port, a database and options. Whatever follows what can be read is ignored.

* `masked` — the text of an address with its password hidden.
-/

set_option autoImplicit false

namespace Discography.Connect

open Discography.Text

/-- The address of a database. -/
structure Url where
  /-- The dialect, and after a plus sign the driver. -/
  name : String
  user : Option String
  password : Option String
  host : Option String
  port : Option Int
  database : Option String
  options : List (String × String)
  deriving DecidableEq, Repr

/-- An address that cannot be read. -/
def unreadable : Failure := .sql .argument "Could not parse SQLAlchemy URL from given URL string"

/-- A port that is no number; a long text is cut. -/
def portNotNumber (text : String) : Failure :=
  .fault .value
    ("invalid literal for int() with base 10: " ++ String.ofList ((quoted text).toList.take 200))

/-- The name before the colon and two slashes, and what follows them. -/
def splitScheme (s : List Char) : Option (List Char × List Char) :=
  let isName := fun c => isWordChar c || c == '+'
  match s.takeWhile isName, s.dropWhile isName with
  | [], _ => none
  | name, ':' :: '/' :: '/' :: r => some (name, r)
  | _, _ => none

/-- A text up to the last occurrence of a character, and what follows it. -/
def splitLast (c : Char) (s : List Char) : Option (List Char × List Char) :=
  match s.reverse.dropWhile (· != c) with
  | [] => none
  | _ :: before => some (before.reverse, s.drop (before.length + 1))

/-- A text up to the first occurrence of a character, and what follows it. -/
def splitFirst (c : Char) (s : List Char) : Option (List Char × List Char) :=
  match s.dropWhile (· != c) with
  | [] => none
  | _ :: after => some (s.takeWhile (· != c), after)

/-- The user and the password before an at sign, if there are any, and what follows. A password may
hold any character but an at sign. -/
def splitUser (s : List Char) : Option (List Char × Option (List Char)) × List Char :=
  let isUser := fun c => c != ':' && c != '/'
  let run := s.takeWhile isUser
  let withPassword := match s.dropWhile isUser with
    | ':' :: r => splitFirst '@' r
    | _ => none
  match withPassword with
  | some (password, rest) => (some (run, some password), rest)
  | none =>
    match splitLast '@' run with
    | some (user, _) => (some (user, none), s.drop (user.length + 1))
    | none => (none, s)

/-- The host, if there is one, and what follows. A host with colons stands in brackets. -/
def splitHost (s : List Char) : Option (List Char) × List Char :=
  let bracketed := match s with
    | '[' :: r =>
      match splitLast ']' (r.takeWhile fun c => c != '/' && c != '?') with
      | some (c :: host, _) => some (c :: host, r.drop (host.length + 2))
      | _ => none
    | _ => none
  match bracketed with
  | some (host, rest) => (some host, rest)
  | none =>
    let isHost := fun c => c != '/' && c != ':' && c != '?'
    match s.takeWhile isHost with
    | [] => (none, s)
    | host => (some host, s.dropWhile isHost)

/-- What follows a mark at the start of a text, up to a character in `stop`, and the rest. -/
def splitMarked (mark : Char) (stop : Char → Bool) (s : List Char) :
    Option (List Char) × List Char :=
  match s with
  | c :: r =>
    if c = mark then (some (r.takeWhile (!stop ·)), r.dropWhile (!stop ·)) else (none, s)
  | [] => (none, s)

/-- The number of a port. -/
def readPort (s : List Char) : Except Failure Int :=
  if digitLimit < leadingDigits s then .error (.tooManyDigits (leadingDigits s))
  else
    match decimalLiteral? s with
    | some n => .ok n
    | none => .error (portNotNumber (String.ofList s))

/-- A name or a value of an option. -/
def optionText (s : List Char) : String :=
  String.ofList (percentDecode (s.map fun c => if c = '+' then ' ' else c))

/-- The options of a text; one without a value is ignored. -/
def readOptions (s : List Char) : List (String × String) :=
  (s.splitOn '&').filterMap fun part =>
    match splitFirst '=' part with
    | some (name, c :: value) => some (optionText name, optionText (c :: value))
    | _ => none

/-- A part of an address with its escapes decoded. -/
def part (s : List Char) : String := String.ofList (percentDecode s)

/-- The address that a text spells. -/
def Url.parse (text : String) : Except Failure Url :=
  match splitScheme text.toList with
  | none => .error unreadable
  | some (name, r) => do
    let (user, r) := splitUser r
    let (host, r) := splitHost r
    let (port, r) := splitMarked ':' (fun c => c == '/' || c == '?') r
    let (database, r) := splitMarked '/' (· == '?') r
    let (options, _) := splitMarked '?' (· == '\n') r
    let number ← match port with
      | none => pure none
      | some digits => (readPort digits).map some
    pure {
      name := String.ofList name
      user := user.map fun u => part u.1
      password := user.bind fun u => u.2.map part
      host := host.map String.ofList
      port := number
      database := database.map part
      options := (options.map readOptions).getD [] }

namespace Url

/-- The dialect of an address. -/
def dialect (u : Url) : String := String.ofList (u.name.toList.takeWhile (· != '+'))

/-- The first value of an option. -/
def option? (u : Url) (name : String) : Option String := u.options.lookup name

/-- Options in the order of their names, those of one name in the order in which they are given. -/
def sortedOptions (u : Url) : List (String × String) :=
  u.options.mergeSort fun a b => decide (a.1 ≤ b.1)

/-- A name or a value of an option with escapes. -/
def encodedOption (s : String) : String :=
  String.ofList ((percentEncode [' '] s).toList.map fun c => if c = ' ' then '+' else c)

/-- The text of an address with its password hidden. -/
def masked (u : Url) : String :=
  let login := match u.user with
    | none => ""
    | some user =>
      percentEncode [' ', '+'] user ++ (if u.password.isSome then ":***" else "") ++ "@"
  let host := match u.host with
    | none => ""
    | some host => if host.toList.contains ':' then "[" ++ host ++ "]" else host
  let port := match u.port with
    | none => ""
    | some port => ":" ++ signedDecimal port
  let database := match u.database with
    | none => ""
    | some database => "/" ++ percentEncode [' ', '+', '/'] database
  let options := match u.sortedOptions with
    | [] => ""
    | options =>
      "?" ++ "&".intercalate (options.map fun o => encodedOption o.1 ++ "=" ++ encodedOption o.2)
  u.name ++ "://" ++ login ++ host ++ port ++ database ++ options

end Url

end Discography.Connect
