import SiteProbe.Unicode.CodeSet

/-!
# Tables of characters

A table lists sets of characters under their names. A set is written in rows of code points in hexadecimal with
blanks between them: `41-5A` is a range, `100~136` is every second code point of a range. Names are compared loosely:
case, blanks, hyphens, underscores and a leading `is` do not count.
-/

namespace SiteProbe.Unicode

/-- The loose form of a name. The one name that a leading `is` belongs to is `isc`. -/
def looseName (name : String) : String :=
  let cs := name.toList
  let starts := (cs.take 2).map Char.toLower = ['i', 's']
  let rest := (if starts then cs.drop 2 else cs).filter fun c => c ≠ ' ' && c ≠ '_' && c ≠ '-' && c.toNat < 0x80
  let rest := rest.map Char.toLower
  String.ofList (if starts && rest = ['c'] then ['i', 's', 'c'] else rest)

/-- Whether the second name is a loose form of the first one. -/
def sameName (loose name : String) : Bool := looseName name = loose

/-- The value of an upper-case hexadecimal digit. -/
def hexValue (c : Char) : Nat := if c.isDigit then c.toNat - 48 else c.toNat - 55

/-- Every second number from `low` to `high`, each as a range. -/
def everySecond (low high : Nat) : List (Nat × Nat) :=
  (List.range ((high - low) / 2 + 1)).map fun i => (low + 2 * i, low + 2 * i)

/-- A row of a table that is being read: the number in hand, the lower end of its range and whether the range is
full, and the ranges before it, last one first. -/
structure RangeReader where
  value : Nat
  low : Option (Nat × Bool)
  done : List (Nat × Nat)

/-- The number in hand ends its range. -/
def RangeReader.close (r : RangeReader) : RangeReader :=
  match r.low with
  | none => ⟨0, none, (r.value, r.value) :: r.done⟩
  | some (low, true) => ⟨0, none, (low, r.value) :: r.done⟩
  | some (low, false) => ⟨0, none, (everySecond low r.value).reverse ++ r.done⟩

/-- Read one character of a row. -/
def RangeReader.step (r : RangeReader) (c : Char) : RangeReader :=
  if c = ' ' then r.close
  else if c = '-' then { r with value := 0, low := some (r.value, true) }
  else if c = '~' then { r with value := 0, low := some (r.value, false) }
  else { r with value := r.value * 16 + hexValue c }

/-- The set that is written in rows. -/
def readRanges (rows : List String) : CodeSet :=
  .ofRanges (rows.flatMap fun row => (row.foldl RangeReader.step ⟨0, none, []⟩).close.done.reverse)

/-- A set of characters and its names. -/
structure Table.Entry where
  names : List String
  rows : List String

/-- Sets of characters under their names. -/
abbrev Table := List Table.Entry

/-- The characters of an entry. -/
def Table.Entry.set (e : Table.Entry) : CodeSet := readRanges e.rows

/-- The entry under a name in its loose form. -/
def Table.entry? (t : Table) (loose : String) : Option Table.Entry := t.find? fun e => e.names.any (sameName loose)

/-- The set under a name in its loose form. -/
def Table.find? (t : Table) (loose : String) : Option CodeSet := (t.entry? loose).map Entry.set

end SiteProbe.Unicode
