import SiteProbe.Page
import SiteProbe.Text.Cut

/-!
# Fields of a page

A rule refers to a part of a page by a path: `body`, or `headers.` and a name. Any other path refers to nothing.
-/

namespace SiteProbe

/-- A part of a page. -/
inductive Field where
  | body
  | header (name : String)
  | unknown (path : String)
  deriving DecidableEq, Repr

namespace Field

/-- The part that a path refers to. The first dot ends the word `headers`. -/
def ofPath (path : String) : Field :=
  match Text.cut? ['.'] path.toList with
  | none => if path = "body" then .body else .unknown path
  | some (word, name) =>
    if word = "headers".toList && !name.isEmpty then .header (String.ofList name) else .unknown path

/-- The value of a part of a page, empty if there is none. -/
def value (p : Page) : Field → String
  | .body => p.body
  | .header name => (p.header? name).getD ""
  | .unknown _ => ""

end Field
end SiteProbe
