import SiteProbe.Regex.Item

/-!
# Bracketed classes

A class in brackets lists characters, ranges and other classes; within it `&&`, `--` and `~~` intersect, subtract and
tell apart what is on their two sides, from left to right. The reader keeps the classes and operations that are open
on a stack (`Bracket.Open`).
-/

namespace SiteProbe.Regex.Bracket

/-- A set of characters and how deep the brackets and operations in it lie within each other. -/
structure Nested where
  set : CodeSet
  depth : Nat
  deriving Repr

/-- The members that are listed in a row. -/
structure Members where
  set : CodeSet
  count : Nat
  depth : Nat
  deriving Repr

namespace Members

/-- No members. -/
def none : Members := ⟨.empty, 0, 0⟩

/-- List one more member. -/
def add (m : Members) (n : Nested) : Members := ⟨m.set.union n.set, m.count + 1, max m.depth n.depth⟩

/-- The members as one set; several of them make a level of their own. -/
def nested (m : Members) : Nested := ⟨m.set, if m.count ≤ 1 then m.depth else m.depth + 1⟩

end Members

/-- An operation on two sets. -/
inductive Operation where
  | intersection | difference | symmetricDifference
  deriving DecidableEq, Repr

/-- The sign of an operation is one character written twice. -/
def Operation.ofSign? (c : Char) : Option Operation :=
  if c = '&' then some .intersection
  else if c = '-' then some .difference
  else if c = '~' then some .symmetricDifference
  else none

/-- The result of an operation. -/
def Operation.apply (f : Flags) (op : Operation) (l r : Nested) : Nested :=
  let (a, b) := (f.closure l.set, f.closure r.set)
  let set :=
    match op with
    | .intersection => a.inter b
    | .difference => a.diff b
    | .symmetricDifference => a.symmDiff b
  ⟨set, max l.depth r.depth + 1⟩

/-- What is open: a class, with the members that stand before it, or an operation, with its left side. -/
inductive Open where
  | class (before : Members) (negated : Bool)
  | operation (op : Operation) (left : Nested)
  deriving Repr

/-- Apply the open operation, if there is one, to its right side. -/
def closeOperation (f : Flags) (right : Nested) : List Open → Nested × List Open
  | .operation op left :: stack => (op.apply f left right, stack)
  | stack => (right, stack)

/-- Hyphens in front of the members stand for themselves. -/
def readHyphens? (verbose : Bool) (fuel : Nat) (m : Members) (cs : List Char) : Option (Members × List Char) :=
  match fuel, cs with
  | fuel + 1, '-' :: rest => readHyphens? verbose fuel (m.add ⟨.single '-', 0⟩) (skip verbose rest)
  | _, [] => none
  | _, cs => some (m, cs)

/-- What stands between an opening bracket and the first member: a circumflex that negates, hyphens, or else a closing
bracket that stands for itself. -/
def readOpening? (verbose : Bool) (cs : List Char) : Option (Bool × Members × List Char) := do
  let (negated, cs) :=
    match skip verbose cs with
    | '^' :: rest => (true, skip verbose rest)
    | cs => (false, cs)
  let (m, cs) ← readHyphens? verbose cs.length .none cs
  match cs with
  | [] => none
  | ']' :: rest =>
    if m.count = 0 then
      let rest := skip verbose rest
      if rest.isEmpty then none else return (negated, m.add ⟨.single ']', 0⟩, rest)
    else return (negated, m, cs)
  | _ => return (negated, m, cs)

/-- A named ASCII class, behind its bracket and colon. -/
def readPosix? (f : Flags) (cs : List Char) : Option (Option CodeSet × List Char) := do
  let (negated, cs) :=
    match cs with
    | '^' :: rest => (true, rest)
    | cs => (false, cs)
  let name := cs.takeWhile (· != ':')
  match cs.dropWhile (· != ':') with
  | ':' :: ']' :: rest =>
    let set ← Class.posix? (String.ofList name)
    return (f.negate? negated (f.closure set), rest)
  | _ => none

/-- One item of a class. -/
def readItem? (f : Flags) : List Char → Option (Item × List Char)
  | [] => none
  | '\\' :: rest => readEscape? f.verbose rest
  | c :: rest => some (.literal c false, rest)

/-- What comes behind the current character when blanks do not count. A number sign is passed over once. -/
def peekFrom (hash : Bool) : List Char → Option Char
  | [] => none
  | c :: rest =>
    if Text.isBlank c then peekFrom hash rest
    else if c = '#' && !hash then peekFrom true rest
    else some c

/-- What comes behind the current character. -/
def peek (verbose : Bool) (cs : List Char) : Option Char :=
  if verbose then (peekFrom false cs).or cs.head? else cs.head?

/-- The number of a character that may end a range. -/
def endOfRange? (f : Flags) : Item → Option Nat
  | .literal c byte => ((Item.literal c byte).members? f).map fun _ => c.toNat
  | _ => none

/-- One item or a range. A hyphen before a closing bracket or another hyphen makes no range. -/
def readRange? (f : Flags) (cs : List Char) : Option (CodeSet × List Char) := do
  let (first, rest) ← readItem? f cs
  match skip f.verbose rest with
  | [] => none
  | '-' :: rest =>
    let next := peek f.verbose rest
    if next = some ']' ∨ next = some '-' then return (← first.members? f, '-' :: rest)
    let (second, rest) ← readItem? f (skip f.verbose rest)
    let low ← endOfRange? f first
    let high ← endOfRange? f second
    if low ≤ high then return (.range low high, rest) else none
  | rest => return (← first.members? f, rest)

/-- A class, behind its opening bracket. `m` are the members before the current place in the innermost open class. -/
def readOpen? (f : Flags) (fuel : Nat) (m : Members) (stack : List Open) (cs : List Char) :
    Option (Nested × List Char) :=
  match fuel with
  | 0 => none
  | fuel + 1 =>
    match skip f.verbose cs with
    | [] => none
    | '[' :: rest =>
      let named :=
        match rest with
        | ':' :: behind => readPosix? f behind
        | _ => none
      match named with
      | some (none, _) => none
      | some (some set, rest) => readOpen? f fuel (m.add ⟨set, 0⟩) stack rest
      | none =>
        match readOpening? f.verbose rest with
        | none => none
        | some (negated, first, rest) => readOpen? f fuel first (.class m negated :: stack) rest
    | ']' :: rest =>
      match closeOperation f m.nested stack with
      | (whole, .class before negated :: stack) =>
        match f.negate? negated (f.closure whole.set) with
        | none => none
        | some set =>
          if stack.isEmpty then some (⟨set, whole.depth + 1⟩, rest)
          else readOpen? f fuel (before.add ⟨set, whole.depth + 1⟩) stack rest
      | _ => none
    | c :: rest =>
      match Operation.ofSign? c, rest with
      | some op, d :: behind =>
        if c = d then
          let (left, stack) := closeOperation f m.nested stack
          readOpen? f fuel .none (.operation op left :: stack) behind
        else
          match readRange? f (c :: rest) with
          | none => none
          | some (set, rest) => readOpen? f fuel (m.add ⟨set, 0⟩) stack rest
      | _, _ =>
        match readRange? f (c :: rest) with
        | none => none
        | some (set, rest) => readOpen? f fuel (m.add ⟨set, 0⟩) stack rest

/-- A class, behind its opening bracket. -/
def read? (f : Flags) (cs : List Char) : Option (Nested × List Char) := do
  let (negated, first, rest) ← readOpening? f.verbose cs
  readOpen? f (rest.length + 1) first [.class .none negated] rest

end SiteProbe.Regex.Bracket
