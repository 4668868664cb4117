/-!
# UTF-8

Bytes are read as UTF-8 piece by piece: a piece is a well-formed character or an ill-formed run of bytes, and an
ill-formed run is the longest beginning of a well-formed sequence, or one byte where there is none (`decode`).
Strict reading fails at the first ill-formed piece (`decode?`); lenient reading puts U+FFFD for each of them
(`decodeLossy`).
-/

namespace SiteProbe.Utf8

/-- Whether a byte continues a sequence. -/
def isContinuation (b : UInt8) : Bool := 0x80 ≤ b && b ≤ 0xBF

/-- Whether `b` may stand second after the leading byte `a`: no overlong form, no surrogate, nothing above
U+10FFFF. -/
def isSecond (a b : UInt8) : Bool :=
  if a = 0xE0 then 0xA0 ≤ b && b ≤ 0xBF
  else if a = 0xED then 0x80 ≤ b && b ≤ 0x9F
  else if a = 0xF0 then 0x90 ≤ b && b ≤ 0xBF
  else if a = 0xF4 then 0x80 ≤ b && b ≤ 0x8F
  else isContinuation b

/-- The character of a leading value and continuation bytes. -/
def scalar (leading : UInt8) (rest : List UInt8) : Char :=
  Char.ofNat (rest.foldl (fun n b => n * 64 + (b.toNat - 0x80)) leading.toNat)

/-- The pieces of a byte sequence, `none` for an ill-formed one. -/
def decode : List UInt8 → List (Option Char)
  | [] => []
  | a :: rest =>
    if a < 0x80 then some (scalar a []) :: decode rest
    else if 0xC2 ≤ a && a ≤ 0xDF then
      match rest with
      | [] => [none]
      | b :: rest' =>
        if isSecond a b then some (scalar (a - 0xC0) [b]) :: decode rest' else none :: decode (b :: rest')
    else if 0xE0 ≤ a && a ≤ 0xEF then
      match rest with
      | [] => [none]
      | b :: rest' =>
        if isSecond a b then
          match rest' with
          | [] => [none]
          | c :: rest'' =>
            if isContinuation c then some (scalar (a - 0xE0) [b, c]) :: decode rest''
            else none :: decode (c :: rest'')
        else none :: decode (b :: rest')
    else if 0xF0 ≤ a && a ≤ 0xF4 then
      match rest with
      | [] => [none]
      | b :: rest' =>
        if isSecond a b then
          match rest' with
          | [] => [none]
          | c :: rest'' =>
            if isContinuation c then
              match rest'' with
              | [] => [none]
              | d :: rest''' =>
                if isContinuation d then some (scalar (a - 0xF0) [b, c, d]) :: decode rest'''
                else none :: decode (d :: rest''')
            else none :: decode (c :: rest'')
        else none :: decode (b :: rest')
    else none :: decode rest

/-- The text of well-formed bytes. -/
def decode? (bytes : List UInt8) : Option String := ((decode bytes).mapM id).map String.ofList

/-- The text of any bytes, with U+FFFD for every ill-formed piece. -/
def decodeLossy (bytes : List UInt8) : String := String.ofList ((decode bytes).map fun c => c.getD '\uFFFD')

/-- The bytes of a text. -/
def encode (s : String) : List UInt8 := s.toUTF8.toList

end SiteProbe.Utf8
