import SiteProbe.Json.Basic
import SiteProbe.Query.Field
import SiteProbe.Query.Pattern

/-!
# Version rules

A version rule looks for a version in one field. The first rule that finds one wins; a version marker in its pattern
means nothing more.
-/

namespace SiteProbe

/-- A pattern whose first group is a version, and the field to look in. -/
structure VersionRule where
  field : Field
  pattern : Pattern
  deriving Repr

namespace VersionRule

/-- The rule of one member of a map, if it is a pattern. -/
def ofMember? (member : String × Json) : Option VersionRule :=
  member.2.string?.map fun raw => ⟨.ofPath member.1, .compile raw⟩

/-- The rules of maps from fields to patterns, map by map. -/
def ofMaps (maps : List (List (String × Json))) : List VersionRule := maps.flatten.filterMap ofMember?

/-- The version that a rule finds. -/
def version? (p : Page) (r : VersionRule) : Option String :=
  let value := r.field.value p
  if value = "" then none else (r.pattern.firstMatch? value).bind (·.version?)

/-- The version that the first rule finds that finds any. -/
def firstVersion? (p : Page) (rules : List VersionRule) : Option String := rules.findSome? (version? p)

end VersionRule
end SiteProbe
