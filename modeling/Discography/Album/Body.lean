import Discography.Album.Basic
import Discography.Calendar.Written
import Discography.Json.Reader
import Discography.Page

/-!
# Albums as JSON

The body of a request is read as a draft, and an album is written as the body of a response.

* A member that is null counts as missing, and a missing member has the empty value of its field.
* Of members with one name the last one counts; members of other names are ignored.
* The limits of the reader are given to it, as its releases differ in them: `readWithin?` and
  `parseWithin` read within any, `read?` and `parse` within those that do not count a minus sign.
-/

set_option autoImplicit false

namespace Discography

open Discography.Json

/-- The limits on the bodies of requests. -/
def bodyLimits : Limits := usualLimits

namespace Draft

/-- The text of a member that may be missing. -/
def textOf? : Option Value → Option String
  | none | some .null => some ""
  | some (.text s) => some s
  | some _ => none

/-- The price of a member that may be missing: an integer of 64 bits. -/
def priceOf? : Option Value → Option Int
  | none | some .null => some 0
  | some (.integer n) => if fitsInt64 n then some n else none
  | some _ => none

/-- The draft of the members of an object. -/
def ofMembers? (members : List (String × Value)) : Option Draft := do
  let title ← textOf? (last? "title" members)
  let artist ← textOf? (last? "artist" members)
  let price ← priceOf? (last? "price" members)
  some ⟨title, artist, price⟩

/-- The draft of a JSON value, which has to be an object. -/
def ofValue? (v : Value) : Option Draft := v.members?.bind ofMembers?

/-- The draft of the bytes of a body, read within limits. -/
def readWithin? (limits : Limits) (bytes : ByteArray) : Option Draft :=
  ((String.fromUTF8? bytes).bind (Json.read? limits)).bind ofValue?

/-- The draft of the bytes of a body read within limits, or the failure to read one. -/
def parseWithin (limits : Limits) (bytes : ByteArray) : Except Failure Draft :=
  match readWithin? limits bytes with
  | some d => .ok d
  | none => .error (.malformed "malformed request body")

/-- The draft of the bytes of a body. -/
def read? (bytes : ByteArray) : Option Draft := readWithin? bodyLimits bytes

/-- The draft of the bytes of a body, or the failure to read one. -/
def parse (bytes : ByteArray) : Except Failure Draft := parseWithin bodyLimits bytes

/-- A draft as JSON. -/
def toJson (d : Draft) : Value :=
  .object [("title", .text d.title), ("artist", .text d.artist), ("price", .integer d.price)]

end Draft

/-- An album as the body of a response. Offsets of its stamps are cut to minutes. -/
def Album.response (a : Album) : Value :=
  .object [("id", .text a.id.text), ("title", .text a.title), ("artist", .text a.artist),
    ("price", .integer a.price), ("created_at", .text a.created.briefText),
    ("updated_at", .text a.updated.briefText)]

end Discography
