/-!
# Percent encoding

A character that a part of a URL may not hold is written as the bytes of its UTF-8 form, each as a percent sign and two
hexadecimal digits. Control characters and characters outside of ASCII are written so everywhere; which others are
depends on the part.
-/

namespace SiteProbe.Url

/-- What a fragment may not hold. -/
def fragmentSet : List Char := [' ', '"', '<', '>', '\x60']

/-- What a path may not hold. -/
def pathSet : List Char := fragmentSet ++ ['#', '?', '\x7b', '\x7d']

/-- What a user name or a password may not hold. -/
def userSet : List Char := pathSet ++ ['/', ':', ';', '=', '@', '[', '\\', ']', '^', '|']

/-- What a query may not hold. -/
def querySet : List Char := [' ', '"', '#', '<', '>']

/-- What a query may not hold in the schemes of the web. -/
def webQuerySet : List Char := '\'' :: querySet

/-- The upper-case hexadecimal digit of a value below sixteen. -/
def hexDigit (n : Nat) : Char := if n < 10 then Char.ofNat (48 + n) else Char.ofNat (55 + n)

/-- A byte as a percent sign and two digits. -/
def percentByte (b : UInt8) : List Char := ['%', hexDigit (b.toNat / 16), hexDigit (b.toNat % 16)]

/-- A character as it stands in a part that may not hold those of a set. -/
def percentChar (set : List Char) (c : Char) : List Char :=
  if c.toNat < 0x20 || 0x7F ≤ c.toNat || set.contains c then (String.utf8EncodeChar c).flatMap percentByte else [c]

/-- A text as it stands in a part that may not hold the characters of a set. -/
def percentEncode (set : List Char) (cs : List Char) : String := String.ofList (cs.flatMap (percentChar set))

/-- The value of a byte that is a hexadecimal digit. -/
def hexByte? (b : UInt8) : Option UInt8 :=
  if 0x30 ≤ b && b ≤ 0x39 then some (b - 0x30)
  else if 0x41 ≤ b && b ≤ 0x46 then some (b - 0x37)
  else if 0x61 ≤ b && b ≤ 0x66 then some (b - 0x57)
  else none

/-- The bytes that are meant when percent signs and digits stand for bytes. -/
def percentDecode : List UInt8 → List UInt8
  | [] => []
  | [a] => [a]
  | [a, b] => [a, b]
  | a :: b :: c :: rest =>
    match a == 0x25, hexByte? b, hexByte? c with
    | true, some high, some low => (high * 16 + low) :: percentDecode rest
    | _, _, _ => a :: percentDecode (b :: c :: rest)

end SiteProbe.Url
