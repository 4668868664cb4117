import SiteProbe.Regex.Bracket

/-!
# Reading patterns

A pattern is read from left to right; open groups wait on a stack (`Reader`). Flags that are set within a group hold to
its end, across its alternatives. A pattern that nests too deeply is refused like one that is not well-formed
(`read?`).
-/

namespace SiteProbe.Regex

/-- A part of a pattern: its expression, how deep its parts lie within each other, and whether it may be repeated. -/
structure Piece where
  node : Node
  depth : Nat
  repeatable : Bool
  deriving Repr

/-- Parts in a row, one inside the other only if there are several. -/
def Piece.sequence (parts : List Piece) : Piece :=
  match parts with
  | [] => ⟨.empty, 0, true⟩
  | [p] => p
  | _ => ⟨.sequence (parts.map (·.node)), (parts.map (·.depth)).foldl max 0 + 1, true⟩

/-- Alternatives, if there are several. -/
def Piece.choice (parts : List Piece) : Piece :=
  match parts with
  | [p] => p
  | _ => ⟨Node.either (parts.map (·.node)), (parts.map (·.depth)).foldl max 0 + 1, true⟩

/-- What has been read of a group: its finished alternatives and the parts of the current one, last one first. -/
structure Level where
  alternatives : List Piece
  parts : List Piece
  deriving Repr

/-- The level before anything is read. -/
def Level.start : Level := ⟨[], []⟩

/-- The current alternative is complete. -/
def Level.nextAlternative (l : Level) : Level := ⟨Piece.sequence l.parts.reverse :: l.alternatives, []⟩

/-- The level as one part. -/
def Level.piece (l : Level) : Piece := Piece.choice l.nextAlternative.alternatives.reverse

/-- An open group: the level around it, its number if it captures, and the flags that hold behind it. -/
structure OpenGroup where
  outer : Level
  index : Option Nat
  flags : Flags
  deriving Repr

/-- What is known in the middle of a pattern. -/
structure Reader where
  level : Level
  stack : List OpenGroup
  flags : Flags
  /-- How many groups capture. -/
  groups : Nat
  names : List String
  deriving Repr

namespace Reader

/-- The reader before the first character. -/
def start : Reader := ⟨.start, [], .default, 0, []⟩

/-- A part is complete. -/
def add (r : Reader) (p : Piece) : Reader := { r with level := { r.level with parts := p :: r.level.parts } }

/-- Take up a flag. -/
def setFlag? (f : Flags) (on : Bool) (c : Char) : Option Flags :=
  match c with
  | 'i' => some { f with ignoreCase := on }
  | 'm' => some { f with multiLine := on }
  | 's' => some { f with dotMatchesAll := on }
  | 'U' => some { f with swapGreed := on }
  | 'u' => some { f with unicode := on }
  | 'R' => some { f with carriageReturns := on }
  | 'x' => some { f with verbose := on }
  | _ => none

/-- Read flags up to a colon or a closing parenthesis, each at most once; those behind a hyphen are cleared, and there
is at least one behind it. -/
def readFlags? (f : Flags) (on : Bool) (seen : List Char) : List Char → Option (Flags × List Char × Char × List Char)
  | [] => none
  | c :: rest =>
    if c = ':' || c = ')' then (if seen.head? = some '-' then none else some (f, seen, c, rest))
    else if seen.contains c then none
    else if c = '-' then readFlags? f false (c :: seen) rest
    else
      match setFlag? f on c with
      | some f => readFlags? f on (c :: seen) rest
      | none => none

/-- Whether a character may stand in the name of a group. -/
def isNameChar (first : Bool) (c : Char) : Bool :=
  if first then c = '_' || Class.letters.contains c.toNat
  else ['_', '.', '[', ']'].contains c || Class.letters.contains c.toNat || Class.numbers.contains c.toNat

/-- Whether a name is one of a group. -/
def isName : List Char → Bool
  | [] => false
  | c :: rest => isNameChar true c && rest.all (isNameChar false)

/-- A group opens. -/
def openGroup (r : Reader) (index : Option Nat) (flags : Flags) : Reader :=
  { r with level := .start, stack := ⟨r.level, index, r.flags⟩ :: r.stack, flags }

/-- A group opens that captures. -/
def openCapture (r : Reader) : Reader :=
  { r.openGroup (some (r.groups + 1)) r.flags with groups := r.groups + 1 }

/-- A named group, behind its opening angle. -/
def readNamed? (r : Reader) (cs : List Char) : Option (Reader × List Char) :=
  let name := cs.takeWhile (· != '>')
  match cs.dropWhile (· != '>') with
  | [] => none
  | _ :: rest =>
    if isName name && !r.names.contains (String.ofList name) then
      some ({ r.openCapture with names := String.ofList name :: r.names }, rest)
    else none

/-- A group or a setting of flags, behind the opening parenthesis. Groups that look around are refused. -/
def readGroup? (r : Reader) (cs : List Char) : Option (Reader × List Char) :=
  match skip r.flags.verbose cs with
  | '?' :: '=' :: _ => none
  | '?' :: '!' :: _ => none
  | '?' :: '<' :: '=' :: _ => none
  | '?' :: '<' :: '!' :: _ => none
  | '?' :: 'P' :: '<' :: rest => r.readNamed? rest
  | '?' :: '<' :: rest => r.readNamed? rest
  | '?' :: rest =>
    match readFlags? r.flags true [] rest with
    | some (flags, seen, ')', rest) =>
      if seen.isEmpty then none else some ({ r with flags }.add ⟨.empty, 0, false⟩, rest)
    | some (flags, _, _, rest) => some (r.openGroup none flags, rest)
    | none => none
  | rest => some (r.openCapture, rest)

/-- A group closes. -/
def closeGroup? (r : Reader) : Option Reader :=
  match r.stack with
  | [] => none
  | g :: stack =>
    let p := r.level.piece
    let node :=
      match g.index with
      | some i => .group i p.node
      | none => p.node
    some ({ r with level := g.outer, stack, flags := g.flags }.add ⟨node, p.depth + 1, true⟩)

/-- The last part is repeated. -/
def repeatLast? (r : Reader) (min : Nat) (max : Option Nat) (greedy : Bool) : Option Reader :=
  match r.level.parts with
  | [] => none
  | p :: parts =>
    if p.repeatable then
      let node := Node.repeated min max (greedy != r.flags.swapGreed) p.node
      some ({ r with level := { r.level with parts } }.add ⟨node, p.depth + 1, true⟩)
    else none

/-- Behind a sign of repetition a question mark makes it lazy. -/
def readLazy : List Char → Bool × List Char
  | '?' :: rest => (false, rest)
  | rest => (true, rest)

/-- Read digits. -/
def takeDigits (verbose : Bool) : List Char → List Char × List Char
  | [] => ([], [])
  | c :: rest =>
    if c.isDigit then
      let (digits, rest) := takeDigits verbose (skip verbose rest)
      (c :: digits, rest)
    else ([], c :: rest)
termination_by cs => cs.length
decreasing_by simpa using Nat.lt_succ_of_le (length_skip_le verbose rest)

/-- A count, with blanks around it. -/
def readCount? (verbose : Bool) (cs : List Char) : Option (Nat × List Char) :=
  let (digits, rest) := takeDigits verbose (cs.dropWhile Text.isBlank)
  let n := digits.foldl (fun n c => n * 10 + (c.toNat - 48)) 0
  if digits.isEmpty || 4294967296 ≤ n then none else some (n, rest.dropWhile Text.isBlank)

/-- The bounds of a repetition, behind the opening brace. -/
def readBounds? (verbose : Bool) (cs : List Char) : Option (Nat × Option Nat × List Char) := do
  let (min, rest) ← readCount? verbose (skip verbose cs)
  match rest with
  | '\x7d' :: rest => return (min, some min, rest)
  | ',' :: rest =>
    match skip verbose rest with
    | '\x7d' :: rest => return (min, none, rest)
    | rest =>
      let (max, rest) ← readCount? verbose rest
      match rest with
      | '\x7d' :: rest => if min ≤ max then return (min, some max, rest) else none
      | _ => none
  | _ => none

/-- One item outside of brackets. -/
def readItem? (r : Reader) (c : Char) (rest : List Char) : Option (Reader × List Char) := do
  let (item, rest) ←
    match c with
    | '\\' => readEscape? r.flags.verbose rest
    | '.' => some (.any, rest)
    | '^' => some (.place .lineStart, rest)
    | '$' => some (.place .lineEnd, rest)
    | c => some (.literal c false, rest)
  return (r.add ⟨← item.node? r.flags, 0, true⟩, rest)

/-- Read what starts with a character that is no blank. -/
def step? (r : Reader) (c : Char) (rest : List Char) : Option (Reader × List Char) :=
  match c with
  | '(' => r.readGroup? rest
  | ')' => r.closeGroup?.map fun r => (r, rest)
  | '|' => some ({ r with level := r.level.nextAlternative }, rest)
  | '[' => (Bracket.read? r.flags rest).map fun (s, rest) => (r.add ⟨.chars s.set, s.depth, true⟩, rest)
  | '?' =>
    let (greedy, rest) := readLazy rest
    (r.repeatLast? 0 (some 1) greedy).map fun r => (r, rest)
  | '*' =>
    let (greedy, rest) := readLazy rest
    (r.repeatLast? 0 none greedy).map fun r => (r, rest)
  | '+' =>
    let (greedy, rest) := readLazy rest
    (r.repeatLast? 1 none greedy).map fun r => (r, rest)
  | '\x7b' => do
    let (min, max, rest) ← readBounds? r.flags.verbose rest
    let (greedy, rest) := readLazy (skip r.flags.verbose rest)
    return (← r.repeatLast? min max greedy, rest)
  | c => r.readItem? c rest

/-- Read the rest of a pattern; every step takes a character at least. -/
def run? (r : Reader) (fuel : Nat) (cs : List Char) : Option Reader :=
  match fuel, skip r.flags.verbose cs with
  | _, [] => some r
  | 0, _ => none
  | fuel + 1, c :: rest =>
    match r.step? c rest with
    | some (r, rest) => run? r fuel rest
    | none => none

end Reader

/-- How deep the parts of a pattern may lie within each other. -/
def depthLimit : Nat := 250

/-- The expression of a pattern. -/
def read? (pattern : String) : Option Node := do
  let r ← Reader.start.run? pattern.length pattern.toList
  if !r.stack.isEmpty then none
  let p := r.level.piece
  if p.depth ≤ depthLimit then return p.node else none

end SiteProbe.Regex
