import SiteProbe.Regex
import SiteProbe.Text.Cut

/-!
# Patterns of rules

A rule writes a pattern with or without a version marker behind it. What stands before the marker is compiled; a
pattern that does not compile matches nothing. The marker says that the first group of a match is a version.
-/

namespace SiteProbe

/-- A pattern of a rule. -/
structure Pattern where
  raw : String
  /-- Nothing if the pattern does not compile. -/
  regex : Option Regex
  hasMarker : Bool
  deriving Repr

namespace Pattern

/-- The two spellings of the version marker; the first one is looked for before the second. -/
def markers : List String := ["\\;version:", ";version:"]

/-- The part of a pattern before its version marker, and whether there is one. -/
def splitMarker (raw : String) : String × Bool :=
  match markers.findSome? fun m => Text.cut? m.toList raw.toList with
  | some (head, _) => (String.ofList head, true)
  | none => (raw, false)

/-- Compile the part of a pattern before its version marker. -/
def compile (raw : String) : Pattern :=
  let (head, hasMarker) := splitMarker raw
  ⟨raw, Regex.compile? head, hasMarker⟩

/-- The first match in a text. -/
def firstMatch? (p : Pattern) (text : String) : Option Regex.Match := p.regex.bind fun r => r.firstMatch? text

end Pattern

/-- A version that a match gives: what the first group covers, if that is not empty. -/
def Regex.Match.version? (m : Regex.Match) : Option String := m.group.filter (· ≠ "")

end SiteProbe
