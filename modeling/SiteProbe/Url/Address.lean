import SiteProbe.Text.Cut

/-!
# Internet addresses

The numeric hosts of URLs. The numbers of an IPv4 address are decimal, octal or hexadecimal, and the last one fills the
bytes that are left. In an IPv6 address the longest run of zeros, if it has two at least, is left out when it is
written.
-/

namespace SiteProbe.Url

/-- The value of a digit in a base up to sixteen. -/
def digit? (base : Nat) (c : Char) : Option Nat :=
  let value :=
    if c.isDigit then c.toNat - 48
    else if 'a' ≤ c ∧ c ≤ 'f' then c.toNat - 87
    else if 'A' ≤ c ∧ c ≤ 'F' then c.toNat - 55
    else base
  if value < base then some value else none

/-- The number that digits write; no digits write zero. -/
def number? (base : Nat) (cs : List Char) : Option Nat :=
  (cs.mapM (digit? base)).map fun ds => ds.foldl (fun n d => n * base + d) 0

namespace Ipv4

/-- A number as it may stand in an address: `0x` starts a hexadecimal one and `0` an octal one. -/
def part? (cs : List Char) : Option Nat :=
  match cs with
  | [] => none
  | '0' :: 'x' :: rest => number? 16 rest
  | '0' :: 'X' :: rest => number? 16 rest
  | '0' :: d :: rest => number? 8 (d :: rest)
  | cs => number? 10 cs

/-- The parts of a domain between dots; a dot at the end makes no part. -/
def parts (domain : List Char) : List (List Char) :=
  let ps := Text.pieces (· = '.') domain
  if ps.length > 1 && ps.getLast? == some [] then ps.dropLast else ps

/-- Whether the last part of a domain is a number, so that the domain must be an address. -/
def endsInNumber (domain : List Char) : Bool :=
  match (parts domain).getLast? with
  | none => false
  | some last => (!last.isEmpty && last.all Char.isDigit) || (part? last).isSome

/-- The address of numbers, the last of which fills the bytes that are left. -/
def ofNumbers? (numbers : List Nat) : Option Nat :=
  let front := numbers.dropLast
  let last := numbers.getLast?.getD 0
  if numbers.isEmpty || numbers.length > 4 || front.any (255 < ·) || Nat.pow 256 (4 - front.length) ≤ last then none
  else some (front.zipIdx.foldl (fun n (m, i) => n + m * Nat.pow 256 (3 - i)) last)

/-- The address that a domain writes. -/
def parse? (domain : List Char) : Option Nat := do
  let ps := parts domain
  if ps.length > 4 then none
  let numbers ← ps.mapM part?
  ofNumbers? numbers

/-- The address with four decimal numbers. -/
def render (address : Nat) : String :=
  ".".intercalate ([3, 2, 1, 0].map fun i => toString (address / Nat.pow 256 i % 256))

end Ipv4

namespace Ipv6

/-- A decimal number up to 255, without a zero in front. -/
def byte? (cs : List Char) : Option Nat :=
  match cs with
  | [] => none
  | '0' :: _ :: _ => none
  | cs => (number? 10 cs).filter (· ≤ 255)

/-- The two pieces that four decimal numbers with dots write. -/
def tail? (cs : List Char) : Option (Nat × Nat) := do
  match ← (Text.pieces (· = '.') cs).mapM byte? with
  | [a, b, c, d] => return (a * 256 + b, c * 256 + d)
  | _ => none

/-- Up to four hexadecimal digits and what is behind them. -/
def takeDigits : Nat → List Char → List Char × List Char
  | 0, cs => ([], cs)
  | _, [] => ([], [])
  | n + 1, c :: rest =>
    if (digit? 16 c).isSome then
      let (digits, rest) := takeDigits n rest
      (c :: digits, rest)
    else ([], c :: rest)

/-- Read the pieces of an address behind those already read, the last of which comes first. The gap is the number of
pieces before the two colons that stand for zeros; the gap itself counts as a piece. -/
def read? (fuel : Nat) (pieces : List Nat) (gap : Option Nat) (cs : List Char) : Option (List Nat × Option Nat) :=
  match fuel, cs with
  | _, [] => some (pieces.reverse, gap)
  | 0, _ => none
  | fuel + 1, c :: rest =>
    if pieces.length = 8 then none
    else if c = ':' then
      if gap.isSome then none else read? fuel (0 :: pieces) (some pieces.length) rest
    else
      let (digits, behind) := takeDigits 4 (c :: rest)
      let value := (number? 16 digits).getD 0
      match behind with
      | [] => read? fuel (value :: pieces) gap []
      | ':' :: behind => if behind.isEmpty then none else read? fuel (value :: pieces) gap behind
      | '.' :: _ =>
        if digits.isEmpty || pieces.length > 6 then none
        else (tail? (c :: rest)).map fun (a, b) => ((b :: a :: pieces).reverse, gap)
      | _ => none

/-- The eight pieces of the address between brackets. -/
def parse? (cs : List Char) : Option (List Nat) := do
  let (pieces, gap) ←
    match cs with
    | ':' :: ':' :: rest => read? cs.length [0] (some 0) rest
    | ':' :: _ => none
    | [_] => none
    | [] => none
    | cs => read? cs.length [] none cs
  match gap with
  | some g =>
    return pieces.take g ++ List.replicate (9 - pieces.length) 0 ++ pieces.drop (g + 1)
  | none => if pieces.length = 8 then return pieces else none

/-- The lower-case hexadecimal digits of a number. -/
def hex (n : Nat) : String := String.ofList (Nat.toDigits 16 n)

/-- Where the longest run of zeros starts and how long it is; of several longest ones the first counts. -/
def longestZeros (pieces : List Nat) : Nat × Nat :=
  (List.range pieces.length).foldl (fun (start, size) i =>
    let run := ((pieces.drop i).takeWhile (· = 0)).length
    if size < run then (i, run) else (start, size)) (0, 0)

/-- The address between brackets. -/
def render (pieces : List Nat) : String :=
  let (start, size) := longestZeros pieces
  let join (l : List Nat) : String := ":".intercalate (l.map hex)
  if size < 2 then "[" ++ join pieces ++ "]"
  else "[" ++ join (pieces.take start) ++ "::" ++ join (pieces.drop (start + size)) ++ "]"

end Ipv6
end SiteProbe.Url
