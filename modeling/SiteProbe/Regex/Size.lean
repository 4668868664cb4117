import SiteProbe.Regex.Node
import Std.Data.HashSet

/-!
# Sizes of expressions

An expression is too large if the automaton that reads its matches byte by byte, or the one that reads them backwards,
takes more memory than `sizeLimit`. The sizes of both follow from the expression (`Node.size`): a state has 32 bytes,
and what leads out of it has 8 bytes for each range of bytes and 4 for each alternative. A set of characters becomes
the least automaton of its UTF-8 forms when read forwards, and a tree of its forms when read backwards.
-/

namespace SiteProbe.Regex

/-- A byte sequence with a range at each place. -/
abbrev ByteRanges := List (Nat × Nat)

/-- The sequences of the numbers from `low` to `high` in base 64 with `n` digits after the first one. -/
def digitRanges : Nat → Nat → Nat → List ByteRanges
  | 0, low, high => [[(low, high)]]
  | n + 1, low, high =>
    let base := Nat.pow 64 (n + 1)
    let (a, b) := (low / base, high / base)
    let (c, d) := (low % base, high % base)
    if a = b then (digitRanges n c d).map ((a, a) :: ·)
    else
      let a' := if c = 0 then a else a + 1
      let b' := if d = base - 1 then b + 1 else b
      let head := if c = 0 then [] else (digitRanges n c (base - 1)).map ((a, a) :: ·)
      let tail := if d = base - 1 then [] else (digitRanges n 0 d).map ((b, b) :: ·)
      let middle := if a' < b' then [(a', b' - 1) :: List.replicate (n + 1) (0, 63)] else []
      head ++ middle ++ tail

/-- The UTF-8 forms of the characters from `low` to `high`; a first entry tells forms of different lengths apart. -/
def utf8Ranges (r : Nat × Nat) : List ByteRanges :=
  [(0, 0, 0x7F), (1, 0x80, 0x7FF), (2, 0x800, 0xFFFF), (3, 0x10000, 0x10FFFF)].flatMap fun (n, low, high) =>
    let (low, high) := (max low r.1, min high r.2)
    if low ≤ high then
      (digitRanges n low high).map fun s =>
        match s with
        | [] => []
        | (a, b) :: rest => (a + 256 * n, b + 256 * n) :: rest
    else []

/-- Sequences with the same first range, which stand side by side, brought together. -/
def branches (sequences : List ByteRanges) : List (List ByteRanges) :=
  (sequences.filter (!·.isEmpty)).splitBy fun s t => s.head? == t.head?

/-- The branches of a tree of sequences and of all trees in it, up to a depth. -/
def subtrees : Nat → List ByteRanges → List (List ByteRanges)
  | 0, _ => []
  | n + 1, sequences =>
    if sequences.all (·.isEmpty) then []
    else sequences :: (branches sequences).flatMap fun branch => subtrees n (branch.map (·.drop 1))

/-- The UTF-8 forms of a set of characters. -/
def setRanges (s : CodeSet) : List ByteRanges := s.ranges.flatMap utf8Ranges

/-- The size of the least automaton of a set. -/
def leastSize (s : CodeSet) : Nat :=
  let nodes := (Std.HashSet.ofList (subtrees 5 (setRanges s))).toList
  nodes.foldl (fun n node => n + 32 + 8 * (branches node).length) 32

/-- The size of the tree of a set. -/
def treeSize (s : CodeSet) : Nat :=
  let sequences := setRanges s
  let edges := (subtrees 5 sequences).foldl (fun n node => n + (branches node).length) 0
  64 + 32 * edges + 4 * sequences.length

/-- The size of a set of characters, read backwards or not. -/
def setSize (backwards : Bool) (s : CodeSet) : Nat :=
  match s.only? with
  | some n => 32 * (Char.ofNat n).utf8Size
  | none =>
    if s.isEmpty then 32
    else if s.isAscii then 64 + 8 * s.ranges.length
    else if backwards then treeSize s
    else leastSize s

namespace Node

mutual

/-- The size of an expression, read backwards or not. Groups are of no interest to who reads backwards. -/
def size (backwards : Bool) : Node → Nat
  | .empty => 32
  | .chars s => setSize backwards s
  | .look _ => 32
  | .group _ n => (if backwards then 0 else 64) + n.size backwards
  | .sequence ns => if ns.isEmpty then 32 else sumSize backwards ns
  | .choice ns => 64 + 4 * ns.length + sumSize backwards ns
  | .times min max _ n =>
    let once := n.size backwards
    match min, max with
    | 0, some 1 => 72 + once
    | 0, none => if n.canBeEmpty then 112 + once else 40 + once
    | min, none => min * once + 40
    | min, some max =>
      let least := if min = 0 then 32 else min * once
      if min = max then least else least + 32 + (max - min) * (40 + once)

/-- The sizes of expressions together. -/
def sumSize (backwards : Bool) : List Node → Nat
  | [] => 0
  | n :: rest => n.size backwards + sumSize backwards rest

end

/-- How large the automaton of an expression may be. -/
def sizeLimit : Nat := 10485760

/-- Whether an expression is small enough; what surrounds it takes a few states. -/
def isSmall (n : Node) : Bool := n.size false + 208 ≤ sizeLimit && n.size true + 208 ≤ sizeLimit

end Node
end SiteProbe.Regex
