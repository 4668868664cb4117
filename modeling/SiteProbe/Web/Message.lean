import SiteProbe.Error
import SiteProbe.Rule.Request
import SiteProbe.Text.Quoted

/-!
# Messages to servers

What a request sends to every server on its way: a method, header fields with names in small letters, and a body
(`Message.ofRequest`). What cannot be sent is an error: the method first, then the header fields in order, a name before
its value.
-/

namespace SiteProbe

/-- What is sent to a server, besides the address. -/
structure Message where
  method : String
  headers : List (String × String)
  body : Option String
  deriving DecidableEq, Repr

namespace Message

/-- Whether a character may stand in a method or in the name of a header field. -/
def isTokenChar (c : Char) : Bool := c.isAlphanum || "!#$%&'*+-.^_\x60|~".toList.contains c

/-- Whether a text is a method or the name of a header field. -/
def isToken (s : String) : Bool := s ≠ "" && s.toList.all isTokenChar

/-- The greatest length of the name of a header field. -/
def greatestName : Nat := 65535

/-- Whether a text is the name of a header field. -/
def isFieldName (s : String) : Bool := isToken s && s.utf8ByteSize ≤ greatestName

/-- Whether a text is the value of a header field: it has no control characters but tabs. -/
def isFieldValue (s : String) : Bool := s.toList.all fun c => c = '\t' || (0x20 ≤ c.toNat && c.toNat ≠ 0x7F)

/-- A header field that can be sent. -/
def field (h : String × String) : Except Error (String × String) :=
  if !isFieldName h.1 then
    .error (.invalidInput ("invalid header name " ++ h.1 ++ ": invalid HTTP header name"))
  else if !isFieldValue h.2 then
    .error (.invalidInput ("invalid header value " ++ Text.Quoted.quote h.2 ++ ": failed to parse header value"))
  else .ok (h.1.toLower, h.2)

/-- The header field that tells what a body is, unless the request has one: bodies that are not written as text are
JSON. -/
def bodyType (r : Request) : List (String × String) :=
  match r.body with
  | none => []
  | some .null => []
  | some (.string _) => []
  | some _ =>
    if r.headers.keys.any fun k => k.toLower = "content-type" then [] else [("content-type", "application/json")]

/-- The body that is sent: a text as it is, any other value as JSON text. -/
def bodyOf (r : Request) : Option String :=
  match r.body with
  | none => none
  | some .null => none
  | some (.string s) => some s
  | some v => some v.compress

/-- A method as a request writes it. -/
def quoteMethod : Option String → String
  | none => "None"
  | some m => "Some(" ++ Text.Quoted.quote m ++ ")"

/-- The message of a request. -/
def ofRequest (r : Request) : Except Error Message := do
  if !isToken r.methodName then
    throw (.invalidInput ("invalid method " ++ quoteMethod r.method ++ ": invalid HTTP method"))
  let headers ← r.headers.toList.mapM field
  return ⟨r.methodName, headers ++ bodyType r, bodyOf r⟩

end Message
end SiteProbe
