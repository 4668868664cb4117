/-!
# Punycode

A label of a domain with characters outside of ASCII is written in ASCII: its ASCII characters first, then, behind a
hyphen, where each of the others goes, as numbers in base 36 with digits of varying weight.
-/

namespace SiteProbe.Url.Punycode

/-- How many digits there are. -/
def base : Nat := 36

/-- The least and the greatest threshold of a digit. -/
def leastThreshold : Nat := 1

@[inherit_doc leastThreshold]
def greatestThreshold : Nat := 26

/-- The first character outside of ASCII. -/
def firstCode : Nat := 128

/-- The bias before the first number. -/
def firstBias : Nat := 72

/-- Numbers do not go beyond 32 bits. -/
def limit : Nat := 4294967296

/-- The threshold of a digit at a position, counted in steps of the base. -/
def threshold (bias k : Nat) : Nat := min greatestThreshold (max leastThreshold (k - bias))

/-- How often a number is divided before it is small. -/
def divide (fuel delta k : Nat) : Nat × Nat :=
  match fuel with
  | 0 => (delta, k)
  | fuel + 1 =>
    if delta > (base - leastThreshold) * greatestThreshold / 2 then
      divide fuel (delta / (base - leastThreshold)) (k + base)
    else (delta, k)

/-- The bias behind a number. -/
def adapt (delta count : Nat) (first : Bool) : Nat :=
  let delta := if first then delta / 700 else delta / 2
  let (delta, k) := divide 32 (delta + delta / count) 0
  k + (base - leastThreshold + 1) * delta / (delta + 38)

/-- The character of a digit. -/
def digitChar (d : Nat) : Char := if d < 26 then Char.ofNat (97 + d) else Char.ofNat (22 + d)

/-- The digit of a character. -/
def digit? (c : Char) : Option Nat :=
  if 'a' ≤ c ∧ c ≤ 'z' then some (c.toNat - 97)
  else if 'A' ≤ c ∧ c ≤ 'Z' then some (c.toNat - 65)
  else if c.isDigit then some (c.toNat - 22)
  else none

/-- The digits of a number. -/
def digits (fuel bias q k : Nat) : List Char :=
  match fuel with
  | 0 => []
  | fuel + 1 =>
    let t := threshold bias k
    if q < t then [digitChar q]
    else digitChar (t + (q - t) % (base - t)) :: digits fuel bias ((q - t) / (base - t)) (k + base)

/-- The state of the encoder: the characters before `code` are written, `count` of them. -/
structure Encoder where
  delta : Nat
  bias : Nat
  count : Nat
  first : Bool
  written : List Char

/-- Go over the characters of a label and write the places of those that are `code`. -/
def Encoder.pass (code : Nat) (e : Encoder) (c : Char) : Encoder :=
  if c.toNat < code then { e with delta := e.delta + 1 }
  else if c.toNat = code then
    ⟨0, adapt e.delta (e.count + 1) e.first, e.count + 1, false, e.written ++ digits 40 e.bias e.delta base⟩
  else e

/-- Write the places of the characters in `codes`, which increase from the first one that is not below `code`. -/
def Encoder.run (label : List Char) (code : Nat) (e : Encoder) : List Nat → Encoder
  | [] => e
  | m :: rest =>
    let e := { e with delta := e.delta + (m - code) * (e.count + 1) }
    let e := label.foldl (pass m) e
    run label (m + 1) { e with delta := e.delta + 1 } rest

/-- The ASCII form of a label. -/
def encode (label : List Char) : List Char :=
  let basic := label.filter fun c => c.toNat < firstCode
  let codes := ((label.map Char.toNat).filter (firstCode ≤ ·)).mergeSort.eraseDups
  let start := if basic.isEmpty then [] else basic ++ ['-']
  (Encoder.run label firstCode ⟨0, firstBias, basic.length, true, start⟩ codes).written

/-- Read one number: its value and the rest. -/
def number? (fuel bias i w k : Nat) (cs : List Char) : Option (Nat × List Char) :=
  match fuel, cs with
  | fuel + 1, c :: rest => do
    let d ← digit? c
    let i := i + d * w
    let t := threshold bias k
    if limit ≤ i then none
    else if d < t then return (i, rest)
    else number? fuel bias i (w * (base - t)) (k + base) rest
  | _, _ => none

/-- Put in the characters that numbers tell of; `i` is the last place. -/
def insertAll? (fuel code bias i : Nat) (first : Bool) (out : List Nat) (cs : List Char) : Option (List Nat) :=
  match fuel, cs with
  | _, [] => some out
  | 0, _ => none
  | fuel + 1, cs => do
    let (j, rest) ← number? cs.length bias i 1 base cs
    let size := out.length + 1
    let code := code + j / size
    let place := j % size
    if !code.isValidChar then none
    else
      insertAll? fuel code (adapt (j - i) size first) (place + 1) false (out.take place ++ code :: out.drop place)
        rest

/-- The label of an ASCII form. -/
def decode? (cs : List Char) : Option (List Char) :=
  let basic := (cs.reverse.dropWhile (· ≠ '-')).drop 1 |>.reverse
  let rest := if cs.contains '-' then cs.drop (basic.length + 1) else cs
  if basic.any fun c => firstCode ≤ c.toNat then none
  else (insertAll? cs.length firstCode firstBias 0 true (basic.map Char.toNat) rest).map fun ns => ns.map Char.ofNat

end SiteProbe.Url.Punycode
