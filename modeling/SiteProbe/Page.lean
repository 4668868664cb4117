/-!
# Pages

A page is what fetching a path gives: the body, the status and the headers, each header name at most once and in the
letter case it came with. Names are compared without regard to ASCII case, and the first value of a name stays.
-/

namespace SiteProbe

/-- The header fields of a page, in the order in which they came. -/
abbrev Headers := List (String × String)

namespace Headers

/-- Whether two names are the same without regard to ASCII case. -/
def sameName (a b : String) : Bool := a.toLower == b.toLower

/-- The value of a header field. -/
def get? (hs : Headers) (name : String) : Option String := (hs.find? fun h => sameName h.1 name).map (·.2)

/-- Add a header field unless there is one of its name, and say whether it was added. -/
def offer (hs : Headers) (name value : String) : Headers × Bool :=
  if (hs.get? name).isSome then (hs, false) else (hs ++ [(name, value)], true)

/-- Offer header fields one after the other, and count those that were added. -/
def offerAll (hs : Headers) : List (String × String) → Headers × Nat
  | [] => (hs, 0)
  | (name, value) :: rest =>
    let (hs, added) := hs.offer name value
    let (hs, count) := offerAll hs rest
    (hs, count + added.toNat)

end Headers

/-- What fetching a path gave. -/
structure Page where
  body : String
  status : Nat
  headers : Headers
  deriving DecidableEq, Repr, Inhabited

namespace Page

/-- The page before anything is fetched. -/
def blank : Page := ⟨"", 0, []⟩

/-- The value of a header field. -/
def header? (p : Page) (name : String) : Option String := p.headers.get? name

/-- Add a header field unless there is one of its name. -/
def withHeader (p : Page) (name value : String) : Page := { p with headers := (p.headers.offer name value).1 }

end Page
end SiteProbe
