import SiteProbe.Unicode.Composition

/-!
# Composed normal form

A text in composed normal form has its marks in the order of their classes and every pair composed that composes.
`compose` brings a text into this form: it takes all characters apart, sorts the marks and puts together what goes
together. The syllables of Hangul compose by arithmetic.
-/

namespace SiteProbe.Unicode.Normal

/-- The first composed syllable of Hangul. -/
def syllables : Nat := 0xAC00

/-- The first leading letter, vowel and trailing letter of Hangul; no trailing letter has the number of the last. -/
def leading : Nat := 0x1100

@[inherit_doc leading]
def vowels : Nat := 0x1161

@[inherit_doc leading]
def trailing : Nat := 0x11A7

/-- The pairs of characters that compose, each behind what they compose to. -/
def parts : List (Nat × Nat × Nat) :=
  Composition.pairs.flatMap fun (second, runs) =>
    (runs.flatMap CodeMap.Run.pairs).map fun (first, composed) => (composed, first, second)

/-- Take a character apart as often as it goes. -/
def takeApart (fuel : Nat) (n : Nat) : List Nat :=
  match fuel with
  | 0 => [n]
  | fuel + 1 =>
    if syllables ≤ n ∧ n < syllables + 11172 then
      let i := n - syllables
      [leading + i / 588, vowels + i % 588 / 28] ++ if i % 28 = 0 then [] else [trailing + i % 28]
    else
      match parts.lookup n with
      | some (first, second) => takeApart fuel first ++ [second]
      | none => [n]

/-- Put a mark, with its class, behind all marks before it whose class is not greater. -/
def insertMark (mark : Nat × Nat) : List (Nat × Nat) → List (Nat × Nat)
  | [] => [mark]
  | m :: rest => if m.2 ≤ mark.2 then m :: insertMark mark rest else mark :: m :: rest

/-- Sort the marks behind each character that is no mark; `marks` are those in hand, in order. -/
def sortMarks (marks : List (Nat × Nat)) : List Nat → List (Nat × Nat)
  | [] => marks
  | n :: rest =>
    match Composition.markClass n with
    | 0 => marks ++ (n, 0) :: sortMarks [] rest
    | k => sortMarks (insertMark (n, k) marks) rest

/-- What two characters compose to. -/
def pair? (first second : Nat) : Option Nat :=
  if leading ≤ first ∧ first < leading + 19 ∧ vowels ≤ second ∧ second < vowels + 21 then
    some (syllables + (first - leading) * 588 + (second - vowels) * 28)
  else if syllables ≤ first ∧ first < syllables + 11172 ∧ (first - syllables) % 28 = 0
      ∧ trailing < second ∧ second < trailing + 28 then
    some (first + (second - trailing))
  else (Composition.pairs.lookup second).bind fun runs => CodeMap.image? runs first

/-- Put characters together: `starter` is the last one that is no mark, `marks` are the marks behind it that are left,
last one first, with their classes. A mark composes with the starter unless one of its class or a greater one is left
between them. -/
def putTogether (starter : Option Nat) (marks : List (Nat × Nat)) : List (Nat × Nat) → List Nat
  | [] => starter.toList ++ marks.reverse.map (·.1)
  | (n, k) :: rest =>
    let free :=
      match marks with
      | [] => true
      | (_, last) :: _ => k ≠ 0 && last < k
    match starter.bind fun s => if free then pair? s n else none with
    | some composed => putTogether (some composed) marks rest
    | none =>
      if k = 0 then starter.toList ++ marks.reverse.map (·.1) ++ putTogether (some n) [] rest
      else putTogether starter ((n, k) :: marks) rest

/-- The composed normal form of a text. -/
def compose (cs : List Char) : List Char :=
  (putTogether none [] (sortMarks [] (cs.flatMap fun c => takeApart 5 c.toNat))).map Char.ofNat

end SiteProbe.Unicode.Normal
