import SiteProbe.Regex.Reader
import SiteProbe.Regex.Search
import SiteProbe.Regex.Size

/-!
# Compiled patterns

A pattern that is well-formed and not too large compiles (`Regex.compile?`). A match reports the part of the text that
its first group covers, if the group took part (`Regex.firstMatch?`).
-/

namespace SiteProbe

/-- A compiled pattern. -/
structure Regex where
  pattern : String
  code : Array Regex.Instruction
  deriving Repr

namespace Regex

/-- Compile a pattern. -/
def compile? (pattern : String) : Option Regex := do
  let node ← read? pattern
  if node.isSmall then return ⟨pattern, node.program⟩ else none

/-- A match, with what the first group covers. -/
structure Match where
  group : Option String
  deriving DecidableEq, Repr

/-- The characters of a text that a span covers. -/
def Span.cut (s : Span) (text : List Char) : Option (List Char) := do
  let start ← s.start
  let stop ← s.stop
  return (text.drop start).take (stop - start)

/-- The first match in a text. -/
def firstMatch? (r : Regex) (text : String) : Option Match :=
  (search r.code text.toList).map fun s => ⟨(s.cut text.toList).map String.ofList⟩

end Regex
end SiteProbe
