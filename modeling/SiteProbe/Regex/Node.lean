import SiteProbe.Unicode.CodeSet

/-!
# Regular expressions

The expressions that a pattern stands for. The smart constructors keep them small: a choice between single characters
is a set of characters, and what can match nothing but the empty text is repeated once at most.
-/

namespace SiteProbe.Regex

/-- Which characters belong to words. -/
inductive Words where
  | ascii | unicode
  deriving DecidableEq, Repr

/-- Which characters end a line. -/
inductive Lines where
  /-- A line feed. -/
  | lineFeed
  /-- A line feed, a carriage return or both in this order. -/
  | either
  deriving DecidableEq, Repr

/-- A condition on the place between two characters. -/
inductive Look where
  | textStart
  | textEnd
  | lineStart (lines : Lines)
  | lineEnd (lines : Lines)
  | wordBoundary (words : Words)
  | noWordBoundary (words : Words)
  | wordStart (words : Words)
  | wordEnd (words : Words)
  /-- No character of a word before. -/
  | wordStartHalf (words : Words)
  /-- No character of a word behind. -/
  | wordEndHalf (words : Words)
  deriving DecidableEq, Repr

/-- A regular expression. -/
inductive Node where
  | empty
  | chars (set : CodeSet)
  | look (look : Look)
  /-- At least `min` and at most `max` times, as often as possible if `greedy` and as seldom as possible if not. -/
  | times (min : Nat) (max : Option Nat) (greedy : Bool) (node : Node)
  /-- The capture group with a number. -/
  | group (index : Nat) (node : Node)
  | sequence (nodes : List Node)
  /-- The first alternative that leads to a match. -/
  | choice (nodes : List Node)
  deriving Repr, Inhabited

namespace Node

mutual

/-- Whether an expression can match nothing but the empty text. -/
def isZeroWidth : Node → Bool
  | .empty => true
  | .look _ => true
  | .chars _ => false
  | .times _ max _ n => max == some 0 || n.isZeroWidth
  | .group _ n => n.isZeroWidth
  | .sequence ns => allZeroWidth ns
  | .choice ns => allZeroWidth ns

/-- Whether no expression can match anything but the empty text. -/
def allZeroWidth : List Node → Bool
  | [] => true
  | n :: rest => n.isZeroWidth && allZeroWidth rest

end

mutual

/-- Whether an expression can match the empty text. -/
def canBeEmpty : Node → Bool
  | .empty => true
  | .look _ => true
  | .chars set => set.isEmpty
  | .times min _ _ n => min == 0 || n.canBeEmpty
  | .group _ n => n.canBeEmpty
  | .sequence ns => allCanBeEmpty ns
  | .choice ns => anyCanBeEmpty ns

/-- Whether all expressions can match the empty text. -/
def allCanBeEmpty : List Node → Bool
  | [] => true
  | n :: rest => n.canBeEmpty && allCanBeEmpty rest

/-- Whether some expression can match the empty text. -/
def anyCanBeEmpty : List Node → Bool
  | [] => false
  | n :: rest => n.canBeEmpty || anyCanBeEmpty rest

end

/-- The set of an expression for one character. -/
def set? : Node → Option CodeSet
  | .chars set => some set
  | _ => none

/-- One of several alternatives. -/
def either (ns : List Node) : Node :=
  match ns with
  | [] => .empty
  | [n] => n
  | _ =>
    match ns.mapM set? with
    | some sets => .chars (.unions sets)
    | none => .choice ns

/-- A repetition. -/
def repeated (min : Nat) (max : Option Nat) (greedy : Bool) (n : Node) : Node :=
  let min' := if n.isZeroWidth then Nat.min min 1 else min
  let max' := if n.isZeroWidth then some (Nat.min (max.getD 1) 1) else max
  if min' = 0 ∧ max' = some 0 then .empty
  else if min' = 1 ∧ max' = some 1 then n
  else .times min' max' greedy n

end Node
end SiteProbe.Regex
