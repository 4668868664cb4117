import SiteProbe.Text.Cut
import SiteProbe.Unicode.Table

/-!
# Maps of characters

A map sends runs of code points to code points at a fixed distance. In a row `41-5A>61` a range goes to a range,
`100~12E>101` says so of every second code point of a range, and `B5>3BC` of one.
-/

namespace SiteProbe.Unicode.CodeMap

/-- Code points from `low` to `high`, `step` apart, that go to the code points from `target` on, as far apart. -/
structure Run where
  low : Nat
  high : Nat
  step : Nat
  target : Nat
  deriving Repr

/-- What a run sends a code point to. -/
def Run.image? (r : Run) (n : Nat) : Option Nat :=
  if r.low ≤ n && n ≤ r.high && (n - r.low) % r.step = 0 then some (r.target + (n - r.low)) else none

/-- The pairs of a run. -/
def Run.pairs (r : Run) : List (Nat × Nat) :=
  (List.range ((r.high - r.low) / r.step + 1)).map fun i => (r.low + r.step * i, r.target + r.step * i)

/-- What the first run that has a code point sends it to. -/
def image? (runs : List Run) (n : Nat) : Option Nat := runs.findSome? fun r => r.image? n

/-- A row of runs that is being read: the number in hand, the lower end of the run and its step, its upper end, and
the runs before it, last one first. -/
structure RunReader where
  value : Nat
  low : Option (Nat × Nat)
  high : Nat
  done : List Run

/-- Read one character of a row. -/
def RunReader.step (r : RunReader) (c : Char) : RunReader :=
  if c = ' ' then
    let (low, step) := r.low.getD (r.high, 1)
    ⟨0, none, 0, ⟨low, r.high, step, r.value⟩ :: r.done⟩
  else if c = '-' then { r with value := 0, low := some (r.value, 1) }
  else if c = '~' then { r with value := 0, low := some (r.value, 2) }
  else if c = '>' then { r with value := 0, high := r.value }
  else { r with value := r.value * 16 + hexValue c }

/-- The runs that are written in rows. -/
def readRuns (rows : List String) : List Run :=
  rows.flatMap fun row => ((row.foldl RunReader.step ⟨0, none, 0, []⟩).step ' ').done.reverse

/-- The number that hexadecimal digits write. -/
def readHex (cs : List Char) : Nat := cs.foldl (fun n c => n * 16 + hexValue c) 0

/-- The characters that go to several others; `FB00>66+66` says of one what it goes to. -/
def readLonger (rows : List String) : List (Nat × List Nat) :=
  rows.flatMap fun row =>
    (Text.pieces (· = ' ') row.toList).filterMap fun item =>
      (Text.cut? ['>'] item).map fun (c, others) => (readHex c, (Text.pieces (· = '+') others).map readHex)

end SiteProbe.Unicode.CodeMap
