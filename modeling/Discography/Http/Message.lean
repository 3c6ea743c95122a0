import Discography.Json.Value
import Discography.Text.Percent

/-!
# Requests and responses

A request has a method, a decoded path, a raw query and a body; a response has a status and a body
that is JSON or empty. Where a request is reported, its path is the part of its address before any
`?` or `#`, without tabs and line ends.

* `Request.shownPath` is that part.
-/

set_option autoImplicit false

namespace Discography.Http

open Discography.Text

/-- A request as it reaches the service. -/
structure Request where
  method : String
  path : String
  query : String
  body : ByteArray

/-- The body of a request that arrives in chunks. -/
def joined (chunks : List ByteArray) : ByteArray := chunks.foldl (· ++ ·) ByteArray.empty

/-- A response of the service. -/
structure Response where
  status : Int
  /-- The JSON body; a response without one is empty. -/
  body : Option Json.Value
  location : Option String := none
  allow : List String := []

namespace Response

/-- A response with a JSON body. -/
def json (status : Int) (body : Json.Value) : Response := { status, body := some body }

/-- A JSON body with a message alone. -/
def message (status : Int) (text : String) : Response :=
  json status (.object [("message", .text text)])

/-- A JSON body with a detail alone. -/
def detail (status : Int) (text : String) : Response :=
  json status (.object [("detail", .text text)])

end Response

/-- What follows the host in the address of a path and a query. -/
def address (path query : String) : String :=
  if query.isEmpty then path else path ++ "?" ++ query

namespace Request

/-- The path as it is reported. -/
def shownPath (r : Request) : String :=
  String.ofList (((address r.path r.query).toList.filter fun c =>
    c != '\t' && c != '\n' && c != '\r').takeWhile fun c => c != '?' && c != '#')

end Request

/-- The characters of an address that are not escaped. -/
def addressSafe : List Char := ":/%#?=@[]!$&\x27()*+,;".toList

/-- The location of a path and a query on this service. -/
def location (path query : String) : String :=
  percentEncode addressSafe ("http://test" ++ address path query)

/-! ## Queries -/

/-- A text with plus signs as spaces and escapes decoded. -/
def formDecode (s : List Char) : List Char :=
  percentDecode (s.map fun c => if c = '+' then ' ' else c)

/-- The name and the value of a part of a query; the value is empty if there is no equals sign. -/
def parameter (s : List Char) : String × String :=
  (String.ofList (formDecode (s.takeWhile (· != '='))),
   String.ofList (formDecode ((s.dropWhile (· != '=')).drop 1)))

/-- The parameters of a query, in text order. Its bytes are read as characters up to U+00FF. -/
def parameters (query : String) : List (String × String) :=
  let chars := query.toUTF8.data.toList.map fun b => Char.ofNat b.toNat
  ((chars.splitOn '&').filter fun part => !part.isEmpty).map parameter

/-- The value of the last parameter of a name. -/
def lastParameter? (query name : String) : Option String :=
  (parameters query).reverse.lookup name

end Discography.Http
