import SiteProbe.Page
import SiteProbe.Text.Utf8
import SiteProbe.Url.Location
import SiteProbe.Web.Message

/-!
# Fetching pages

A page is fetched from a web, which answers one message at a time (`fetch`). A redirect is followed as long as it stays
on the host and hops are left, and the page gathers what all answers on the way bring: their bodies, the first value of
each header field, and the last status. If anything on the way fails there is no page.
-/

namespace SiteProbe

/-- The answer of a server. Its body may break off. -/
structure Reply where
  status : Nat
  headers : List (String × List UInt8)
  body : Except Failure (List UInt8)
  deriving Inhabited

/-- A web answers messages, one at a time. -/
abbrev Web (m : Type → Type) := Url → Message → m (Except Failure Reply)

namespace Reply

/-- The texts of the header fields, under names in small letters. -/
def fields (r : Reply) : List (String × String) := r.headers.map fun h => (h.1.toLower, Utf8.decodeLossy h.2)

/-- Where an answer sends its reader, if it does. -/
def location? (r : Reply) : Option String := (r.fields.find? (·.1 = "location")).map (·.2)

/-- Whether an answer is a redirect. -/
def isRedirect (r : Reply) : Bool := 300 ≤ r.status && r.status < 400

/-- The next URL that a redirect leads to, if it stays on the host. -/
def next? (r : Reply) (current : Url) : Option Url :=
  if r.isRedirect then (r.location?.bind current.resolve?).filter current.sameHost else none

end Reply

namespace Page

/-- Take up an answer and its body. -/
def gather (p : Page) (r : Reply) (body : List UInt8) : Page where
  body :=
    let text := Utf8.decodeLossy body
    if p.body = "" then text else if text = "" then p.body else p.body ++ "\n" ++ text
  status := r.status
  headers := (p.headers.offerAll r.fields).1

end Page

namespace Url

/-- The greatest length of a URL that can be sent. -/
def greatestLength : Nat := 65534

/-- The characters that may stand in the host of a URL and not in the address of a message. -/
def unsendable : List Char := ['"', '\x60', '\x7b', '\x7d']

/-- Whether a message can be sent to a URL. -/
def isSendable (u : Url) : Bool :=
  u.isHttp && u.text.utf8ByteSize ≤ greatestLength && !(u.hostText?.getD "").toList.any unsendable.contains

end Url

variable {m : Type → Type} [Monad m]

/-- Fetch from a URL on, with some hops left, and gather what comes into a page. -/
def follow (web : Web m) (message : Message) (p : Page) : Nat → Url → m (Except Error Page)
  | hops, url => do
    if !url.isSendable then return .error (.http "URL not allowed")
    match ← web url message with
    | .error f => return .error (.ofFailure f)
    | .ok reply =>
      match reply.body with
      | .error f => return .error (.ofFailure f)
      | .ok body =>
        match hops with
        | 0 => return .ok (p.gather reply body)
        | hops + 1 =>
          match reply.next? url with
          | some next => follow web message (p.gather reply body) hops next
          | none => return .ok (p.gather reply body)

/-- Fetch a page. -/
def fetch (web : Web m) (maxRedirects : Nat) (url : String) (r : Request) : m (Except Error Page) :=
  match Url.parse url with
  | .error e => return .error (.url e)
  | .ok start =>
    match Message.ofRequest r with
    | .error e => return .error e
    | .ok message => follow web message .blank maxRedirects start

end SiteProbe
