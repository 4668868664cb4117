import SiteProbe.Text.Blank
import SiteProbe.Text.Cut

/-!
# Targets

Targets are given as lines: blanks around a line do not count, empty lines and those that start with `#` name nothing,
and a target that is named again is not a new one (`Target.collect`).
-/

namespace SiteProbe.Target

/-- The target that a line names, if it names one. -/
def ofLine? (line : String) : Option String :=
  match Text.trimChars line.toList with
  | [] => none
  | '#' :: _ => none
  | c :: rest => some (String.ofList (c :: rest))

/-- Put a target behind the others unless it is one of them. -/
def add (targets : List String) (target : String) : List String :=
  if targets.contains target then targets else targets ++ [target]

/-- The targets that lines name, each once, in the order in which they are first named. -/
def collect (lines : List String) : List String := (lines.filterMap ofLine?).foldl add []

/-- The lines of a text. -/
def lines (text : String) : List String := (Text.pieces (· = '\n') text.toList).map String.ofList

end SiteProbe.Target
