import SiteProbe.Regex.Class
import SiteProbe.Regex.Node
import SiteProbe.Text.Blank
import SiteProbe.Text.Cut

/-!
# Items of a pattern

What a pattern says at one place: a character, a class of characters or a condition on the place (`Item`). What it
stands for depends on the flags in force (`Item.node?`). Escapes are read here (`Item.readEscape?`); in a verbose
pattern blanks and comments between the parts of an escape do not count.
-/

namespace SiteProbe.Regex

/-- What governs how a pattern is read. -/
structure Flags where
  ignoreCase : Bool
  multiLine : Bool
  dotMatchesAll : Bool
  swapGreed : Bool
  unicode : Bool
  carriageReturns : Bool
  verbose : Bool
  deriving DecidableEq, Repr

/-- The flags at the start of a pattern. -/
def Flags.default : Flags := ⟨false, false, false, false, true, false, false⟩

/-- A condition on a place as a pattern writes it. -/
inductive Place where
  | lineStart | lineEnd | textStart | textEnd | wordBoundary | noWordBoundary
  | wordStart | wordEnd | wordStartHalf | wordEndHalf
  deriving DecidableEq, Repr

/-- What a pattern says at one place. -/
inductive Item where
  /-- A character; `byte` if it is written as a byte. -/
  | literal (c : Char) (byte : Bool)
  /-- Any character, but perhaps not the end of a line. -/
  | any
  /-- The class of a letter; a capital letter stands for the rest. -/
  | letter (c : Char)
  | property (negated : Bool) (query : Class.Query)
  | place (place : Place)
  deriving Repr

/-- The condition that a place stands for. -/
def Place.look (f : Flags) (p : Place) : Look :=
  let words : Words := if f.unicode then .unicode else .ascii
  let lines : Lines := if f.carriageReturns then .either else .lineFeed
  match p with
  | .lineStart => if f.multiLine then .lineStart lines else .textStart
  | .lineEnd => if f.multiLine then .lineEnd lines else .textEnd
  | .textStart => .textStart
  | .textEnd => .textEnd
  | .wordBoundary => .wordBoundary words
  | .noWordBoundary => .noWordBoundary words
  | .wordStart => .wordStart words
  | .wordEnd => .wordEnd words
  | .wordStartHalf => .wordStartHalf words
  | .wordEndHalf => .wordEndHalf words

/-- The set with all that the flags do not tell from its members. -/
def Flags.closure (f : Flags) (s : CodeSet) : CodeSet :=
  if f.ignoreCase then (if f.unicode then Unicode.Fold.closure s else Class.asciiClosure s) else s

/-- The rest of a set if it is negated. Without Unicode there is no rest, as it would hold half characters. -/
def Flags.negate? (f : Flags) (negated : Bool) (s : CodeSet) : Option CodeSet :=
  if negated then (if f.unicode then some s.complement else none) else some s

/-- The class of a letter. -/
def letterSet? (f : Flags) (c : Char) : Option CodeSet :=
  let set :=
    if c.toLower = 'd' then (if f.unicode then Class.digits else Class.asciiDigits)
    else if c.toLower = 's' then (if f.unicode then Class.spaces else Class.asciiSpaces)
    else (if f.unicode then Class.words else Class.asciiWords)
  f.negate? c.isUpper set

/-- The class of a property. -/
def propertySet? (f : Flags) (negated : Bool) (query : Class.Query) : Option CodeSet :=
  if f.unicode then query.set?.bind fun s => f.negate? negated (f.closure s) else none

/-- The expression of an item. -/
def Item.node? (f : Flags) : Item → Option Node
  | .literal c byte =>
    if byte && !f.unicode && 0x7F < c.toNat then none else some (.chars (f.closure (.single c)))
  | .any =>
    if !f.unicode then none
    else if f.dotMatchesAll then some (.chars .all)
    else
      let ends := if f.carriageReturns then (CodeSet.single '\n').union (.single '\r') else .single '\n'
      some (.chars ends.complement)
  | .letter c => (letterSet? f c).map .chars
  | .property negated query => (propertySet? f negated query).map .chars
  | .place p => some (.look (p.look f))

/-- The characters that an item adds to a bracketed class. -/
def Item.members? (f : Flags) : Item → Option CodeSet
  | .literal c _ => if f.unicode || c.toNat ≤ 0x7F then some (.single c) else none
  | .letter c => letterSet? f c
  | .property negated query => propertySet? f negated query
  | .any | .place _ => none

/-- Leave out blanks and comments at the front; a comment goes from a number sign to the end of its line. -/
def skipFrom (comment : Bool) : List Char → List Char
  | [] => []
  | c :: rest =>
    if comment then skipFrom (c != '\n') rest
    else if Text.isBlank c then skipFrom false rest
    else if c = '#' then skipFrom true rest
    else c :: rest

/-- Leave out blanks and comments at the front of a verbose pattern. -/
def skip (verbose : Bool) (cs : List Char) : List Char := if verbose then skipFrom false cs else cs

/-- Skipping makes nothing longer. -/
theorem length_skipFrom_le (comment : Bool) (cs : List Char) : (skipFrom comment cs).length ≤ cs.length := by
  induction cs generalizing comment with
  | nil => simp [skipFrom]
  | cons c rest ih =>
    unfold skipFrom
    split
    · exact Nat.le_succ_of_le (ih _)
    · split
      · exact Nat.le_succ_of_le (ih _)
      · split
        · exact Nat.le_succ_of_le (ih _)
        · exact Nat.le_refl _

/-- Skipping makes nothing longer. -/
theorem length_skip_le (verbose : Bool) (cs : List Char) : (skip verbose cs).length ≤ cs.length := by
  unfold skip
  split
  · exact length_skipFrom_le _ _
  · exact Nat.le_refl _

/-- The characters up to a closing brace, without blanks and comments in a verbose pattern. -/
def readBraced? (verbose comment : Bool) (read : List Char) : List Char → Option (List Char × List Char)
  | [] => none
  | c :: rest =>
    if comment then readBraced? verbose (c != '\n') read rest
    else if verbose && Text.isBlank c then readBraced? verbose false read rest
    else if verbose && c = '#' then readBraced? verbose true read rest
    else if c = '\x7d' then some (read.reverse, rest)
    else readBraced? verbose false (c :: read) rest

/-- The value of a hexadecimal digit. -/
def hexDigit? (c : Char) : Option Nat :=
  if c.isDigit then some (c.toNat - 48)
  else if 'a' ≤ c ∧ c ≤ 'f' then some (c.toNat - 87)
  else if 'A' ≤ c ∧ c ≤ 'F' then some (c.toNat - 55)
  else none

/-- The character with a number in hexadecimal. -/
def hexChar? (digits : List Char) : Option Char := do
  if digits.isEmpty then none
  let values ← digits.mapM hexDigit?
  let n := values.foldl (fun n d => n * 16 + d) 0
  if n.isValidChar then some (Char.ofNat n) else none

/-- A number of characters in a row. -/
def readSome? (verbose : Bool) : Nat → List Char → Option (List Char × List Char)
  | 0, cs => some ([], cs)
  | n + 1, cs =>
    match skip verbose cs with
    | [] => none
    | c :: rest => (readSome? verbose n rest).map fun (read, rest) => (c :: read, rest)

/-- A character that is written as a number, behind the letter that says how many digits there are. -/
def readNumbered? (verbose : Bool) (digits : Nat) (cs : List Char) : Option (Item × List Char) :=
  match skip verbose cs with
  | '\x7b' :: rest => do
    let (read, rest) ← readBraced? verbose false [] rest
    return (.literal (← hexChar? read) false, rest)
  | cs => do
    let (read, rest) ← readSome? verbose digits cs
    return (.literal (← hexChar? read) (digits == 2), rest)

/-- The query that is written between braces. -/
def queryOf (name : List Char) : Class.Query :=
  match Text.cut? ['!', '='] name <|> Text.cut? [':'] name <|> Text.cut? ['='] name with
  | some (name, value) => .valued (String.ofList name) (String.ofList value)
  | none => .named (String.ofList name)

/-- A class of a property, behind its letter. -/
def readProperty? (verbose negated : Bool) (cs : List Char) : Option (Item × List Char) :=
  match skip verbose cs with
  | [] => none
  | '\x7b' :: rest => do
    let (read, rest) ← readBraced? verbose false [] rest
    return (.property negated (queryOf read), rest)
  | c :: rest => if c = '\\' then none else some (.property negated (.named (String.ofList [c])), rest)

/-- A boundary of a word, behind its letter. A brace belongs to it if a letter or a hyphen follows. -/
def readBoundary? (verbose : Bool) : List Char → Option (Item × List Char)
  | '\x7b' :: rest =>
    match skip verbose rest with
    | [] => none
    | c :: _ =>
      if c.isAlpha || c = '-' then do
        let (read, rest) ← readBraced? verbose false [] rest
        match String.ofList read with
        | "start" => some (.place .wordStart, rest)
        | "end" => some (.place .wordEnd, rest)
        | "start-half" => some (.place .wordStartHalf, rest)
        | "end-half" => some (.place .wordEndHalf, rest)
        | _ => none
      else some (.place .wordBoundary, '\x7b' :: rest)
  | cs => some (.place .wordBoundary, cs)

/-- An escape, behind its backslash. Every ASCII character but letters, digits and angles can be escaped to stand for
itself. -/
def readEscape? (verbose : Bool) : List Char → Option (Item × List Char)
  | [] => none
  | c :: rest =>
    match c with
    | 'x' => readNumbered? verbose 2 rest
    | 'u' => readNumbered? verbose 4 rest
    | 'U' => readNumbered? verbose 8 rest
    | 'p' => readProperty? verbose false rest
    | 'P' => readProperty? verbose true rest
    | 'a' => some (.literal '\x07' false, rest)
    | 'f' => some (.literal '\x0c' false, rest)
    | 't' => some (.literal '\t' false, rest)
    | 'n' => some (.literal '\n' false, rest)
    | 'r' => some (.literal '\r' false, rest)
    | 'v' => some (.literal '\x0b' false, rest)
    | 'A' => some (.place .textStart, rest)
    | 'z' => some (.place .textEnd, rest)
    | 'b' => readBoundary? verbose rest
    | 'B' => some (.place .noWordBoundary, rest)
    | '<' => some (.place .wordStart, rest)
    | '>' => some (.place .wordEnd, rest)
    | _ =>
      if ['d', 's', 'w', 'D', 'S', 'W'].contains c then some (.letter c, rest)
      else if c.isAlphanum || 0x7F < c.toNat then none
      else some (.literal c false, rest)

end SiteProbe.Regex
