/-!
# Binary floating point numbers

Finite binary64 numbers as exact values `± mantissa · 2 ^ exponent`. A ratio is rounded to the nearest one, a half to
the even neighbour (`ofRatio`). A decimal is read by one rounding of its significand and one product or quotient with a
power of ten (`ofDecimal`). A number is written with the fewest digits that read back (`shortest`): the coarsest grid
of decimals with a point in the rounding interval gives the digits, and of its points the nearest one.
-/

namespace SiteProbe

/-- A finite binary64: its mantissa has 53 bits, or fewer at the least exponent. -/
structure Binary64 where
  negative : Bool
  mantissa : Nat
  exponent : Int
  deriving DecidableEq, Repr

namespace Binary64

/-- The exponent of the subnormal numbers. -/
def leastExponent : Int := -1074

/-- The exponent of the largest numbers. -/
def greatestExponent : Int := 971

/-- The least mantissa of the numbers that are not subnormal. -/
def leastNormal : Nat := 4503599627370496

/-- Plus zero. -/
def zero : Binary64 := ⟨false, 0, leastExponent⟩

/-- The whole number nearest to `n / d`, a half going to the even one. -/
def roundHalfEven (n d : Nat) : Nat :=
  let q := n / d
  let r := n % d
  if 2 * r < d ∨ (2 * r = d ∧ q % 2 = 0) then q else q + 1

/-- Numerator and denominator of `n / d / 2 ^ e`. -/
def scale (n d : Nat) (e : Int) : Nat × Nat :=
  if 0 ≤ e then (n, d * Nat.pow 2 e.toNat) else (n * Nat.pow 2 (-e).toNat, d)

/-- The number nearest to `n / d`, if that is not above the largest one. -/
def ofRatio (n d : Nat) : Option Binary64 :=
  if n = 0 then some zero
  else
    let guess : Int := (n.log2 : Int) - (d.log2 : Int) - 52
    let (a, b) := scale n d guess
    let e := max leastExponent (if a < leastNormal * b then guess - 1 else guess)
    let (a, b) := scale n d e
    let q := roundHalfEven a b
    let (q, e) := if q = 2 * leastNormal then (leastNormal, e + 1) else (q, e)
    if greatestExponent < e then none else some ⟨false, q, e⟩

/-- The absolute value as a ratio. -/
def toRatio (x : Binary64) : Nat × Nat :=
  if 0 ≤ x.exponent then (x.mantissa * Nat.pow 2 x.exponent.toNat, 1)
  else (x.mantissa, Nat.pow 2 (-x.exponent).toNat)

/-- The number with the other sign. -/
def neg (x : Binary64) : Binary64 := { x with negative := !x.negative }

/-- The greatest power of ten that a binary64 holds. -/
def greatestPower : Nat := 308

/-- `x · 10 ^ k` for a power of ten within range, each side rounded. -/
def timesPower (x : Binary64) (k : Nat) : Option Binary64 := do
  let (n, d) := x.toRatio
  let (p, r) := (← ofRatio (Nat.pow 10 k) 1).toRatio
  ofRatio (n * p) (d * r)

/-- `x / 10 ^ k` for a power of ten within range, each side rounded. -/
def overPower (x : Binary64) (k : Nat) : Option Binary64 := do
  let (n, d) := x.toRatio
  let (p, r) := (← ofRatio (Nat.pow 10 k) 1).toRatio
  ofRatio (n * r) (d * p)

/-- `x · 10 ^ e`; a very small scale is taken in several quotients. -/
def shift (x : Binary64) (e : Int) : Option Binary64 :=
  if e.natAbs ≤ greatestPower then
    if 0 ≤ e then x.timesPower e.natAbs else x.overPower e.natAbs
  else if x.mantissa = 0 then some x
  else if 0 ≤ e then none
  else do
    let y ← x.overPower greatestPower
    y.shift (e + greatestPower)
termination_by (-e).toNat
decreasing_by simp only [greatestPower] at *; omega

/-- The number written `significand · 10 ^ e`, if it is within range. -/
def ofDecimal (significand : Nat) (e : Int) : Option Binary64 := do (← ofRatio significand 1).shift e

/-! ### Shortest digits -/

/-- Numerators of the lower end, the value and the upper end of the interval that rounds to `x`, over the denominator
of `interval x`. -/
def bounds (x : Binary64) : Nat × Nat × Nat :=
  let below := if x.mantissa = leastNormal ∧ leastExponent < x.exponent then 1 else 2
  (4 * x.mantissa - below, 4 * x.mantissa, 4 * x.mantissa + 2)

/-- Whether `n / d` rounds to `x`, where `lo / d` and `hi / d` are the ends of its interval: the ends round to an even
mantissa. -/
def isWithin (x : Binary64) (lo hi n : Nat) : Bool :=
  if x.mantissa % 2 = 0 then lo ≤ n && n ≤ hi else lo < n && n < hi

/-- The multiple of `10 ^ p` nearest to `x` among those that round to `x`. -/
def onGrid (x : Binary64) (p : Int) : Option Nat :=
  let (lo, v, hi) := x.bounds
  let e := x.exponent - 2
  -- Everything over the denominator that makes both `2 ^ e` and `10 ^ p` whole.
  let two (n : Nat) : Nat := if 0 ≤ e then n * Nat.pow 2 e.toNat else n
  let ten (n : Nat) : Nat := if 0 ≤ p then n else n * Nat.pow 10 (-p).toNat
  let unit := (if 0 ≤ p then Nat.pow 10 p.toNat else 1) * (if 0 ≤ e then 1 else Nat.pow 2 (-e).toNat)
  let (lo, v, hi) := (ten (two lo), ten (two v), ten (two hi))
  let down := v / unit
  let up := down + 1
  let downFits := 0 < down && x.isWithin lo hi (down * unit)
  let upFits := x.isWithin lo hi (up * unit)
  if downFits && upFits then
    let below := v - down * unit
    let above := up * unit - v
    some (if below < above ∨ (below = above ∧ down % 2 = 0) then down else up)
  else if downFits then some down
  else if upFits then some up
  else none

/-- Significand and power of ten of the shortest decimal that reads back as `x`. -/
def shortest (x : Binary64) : Nat × Int :=
  if x.mantissa = 0 then (0, 0)
  else
    let grids : List Int := (List.range 640).map fun i : Nat => 309 - (i : Int)
    (grids.findSome? fun p => (x.onGrid p).map (·, p)).getD (0, 0)

/-- Where positional notation ends, and how an exponent is marked. -/
structure Style where
  /-- Least position of the point, counted from the first digit, that is written positionally. -/
  leastPoint : Int
  /-- Greatest position of the point that is written positionally. -/
  greatestPoint : Int
  /-- What stands before an exponent that is not negative. -/
  plus : String

/-- The text of a number in a style: positional with at least one digit after the point, or one digit before it and an
exponent. -/
def render (style : Style) (x : Binary64) : String :=
  let (n, k) := x.shortest
  let digits := toString n
  let point : Int := digits.length + k
  let zeros (i : Int) : String := String.ofList (List.replicate i.toNat '0')
  let body :=
    if x.mantissa = 0 then "0.0"
    else if 0 ≤ k ∧ point ≤ style.greatestPoint then digits ++ zeros k ++ ".0"
    else if 0 < point ∧ point ≤ style.greatestPoint then
      String.ofList (digits.toList.take point.toNat) ++ "." ++ String.ofList (digits.toList.drop point.toNat)
    else if style.leastPoint ≤ point ∧ point ≤ 0 then "0." ++ zeros (-point) ++ digits
    else
      let e := point - 1
      let mantissa := match digits.toList with
        | d :: e :: rest => String.ofList (d :: '.' :: e :: rest)
        | ds => String.ofList ds
      mantissa ++ "e" ++ (if 0 ≤ e then style.plus else "") ++ toString e
  if x.negative then "-" ++ body else body

end Binary64
end SiteProbe
