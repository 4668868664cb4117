/-!
# Sets of characters

A set of characters is a list of inclusive ranges of code points in increasing order, no two of which touch, and none
of which holds a surrogate. Union joins two sorted lists; the other operations come from it and the complement.
-/

namespace SiteProbe

/-- A set of characters: inclusive ranges of code points in increasing order, no two of which touch. -/
structure CodeSet where
  ranges : List (Nat × Nat)
  deriving DecidableEq, Repr, Inhabited

namespace CodeSet

/-- The greatest code point. -/
def greatest : Nat := 0x10FFFF

/-- The first surrogate. -/
def firstSurrogate : Nat := 0xD800

/-- The last surrogate. -/
def lastSurrogate : Nat := 0xDFFF

/-- The set of nothing. -/
def empty : CodeSet := ⟨[]⟩

/-- The parts of a range below and above the surrogates. -/
def scalars (r : Nat × Nat) : List (Nat × Nat) :=
  [(r.1, min r.2 (firstSurrogate - 1)), (max r.1 (lastSurrogate + 1), min r.2 greatest)].filter fun r => r.1 ≤ r.2

/-- The set of the characters from `low` to `high`. -/
def range (low high : Nat) : CodeSet := ⟨scalars (low, high)⟩

/-- The set of all characters. -/
def all : CodeSet := range 0 greatest

/-- The set of one character. -/
def single (c : Char) : CodeSet := ⟨[(c.toNat, c.toNat)]⟩

/-- Join ranges that overlap or touch, given in increasing order of their lower ends. -/
def joinFrom : Nat × Nat → List (Nat × Nat) → List (Nat × Nat)
  | r, [] => [r]
  | (a, b), (c, d) :: rest => if c ≤ b + 1 then joinFrom (a, max b d) rest else (a, b) :: joinFrom (c, d) rest

/-- Join ranges given in increasing order of their lower ends. -/
def join : List (Nat × Nat) → List (Nat × Nat)
  | [] => []
  | r :: rest => joinFrom r rest

/-- The set of any ranges. -/
def ofRanges (rs : List (Nat × Nat)) : CodeSet := ⟨join ((rs.flatMap scalars).mergeSort fun a b => a.1 ≤ b.1)⟩

/-- The characters in either set. -/
def union (s t : CodeSet) : CodeSet := ⟨join (List.merge s.ranges t.ranges fun a b => a.1 ≤ b.1)⟩

/-- The ranges between the given ones, from a code point on. -/
def gaps (start : Nat) : List (Nat × Nat) → List (Nat × Nat)
  | [] => if start ≤ greatest then [(start, greatest)] else []
  | (a, b) :: rest => if start < a then (start, a - 1) :: gaps (b + 1) rest else gaps (b + 1) rest

/-- The characters outside a set. -/
def complement (s : CodeSet) : CodeSet :=
  ⟨gaps 0 (List.merge s.ranges [(firstSurrogate, lastSurrogate)] fun a b => a.1 ≤ b.1)⟩

/-- The characters in both sets. -/
def inter (s t : CodeSet) : CodeSet := (s.complement.union t.complement).complement

/-- The characters in the first set alone. -/
def diff (s t : CodeSet) : CodeSet := s.inter t.complement

/-- The characters in exactly one of two sets. -/
def symmDiff (s t : CodeSet) : CodeSet := (s.union t).diff (s.inter t)

/-- The union of many sets. -/
def unions (sets : List CodeSet) : CodeSet := ofRanges (sets.flatMap (·.ranges))

/-- Whether a code point is in a set. -/
def contains (s : CodeSet) (n : Nat) : Bool := s.ranges.any fun (a, b) => a ≤ n && n ≤ b

/-- Whether a set has no member. -/
def isEmpty (s : CodeSet) : Bool := s.ranges.isEmpty

/-- Whether a set has ASCII members only. -/
def isAscii (s : CodeSet) : Bool := s.ranges.all fun (_, b) => b < 0x80

/-- The member of a set that has just one. -/
def only? (s : CodeSet) : Option Nat :=
  match s.ranges with
  | [(a, b)] => if a = b then some a else none
  | _ => none

/-- The ranges of a set for a search by halves. -/
def toArray (s : CodeSet) : Array (Nat × Nat) := s.ranges.toArray

/-- Whether a code point is in one of the ranges with an index from `low` up to but not including `high`. -/
def searchRanges (ranges : Array (Nat × Nat)) (n low high : Nat) : Bool :=
  if low < high then
    let middle := (low + high) / 2
    let (a, b) := ranges.getD middle (1, 0)
    if n < a then searchRanges ranges n low middle
    else if b < n then searchRanges ranges n (middle + 1) high
    else a ≤ b
  else false
termination_by high - low

end CodeSet
end SiteProbe
