import SiteProbe.Json.Basic
import SiteProbe.Text.Utf8

/-!
# JSON tokens

Bytes are cut into tokens by a machine that looks at one byte at a time (`Scanner.step`). A string or a number can have
the right shape and still name nothing: a string with an unpaired surrogate or bytes that are not UTF-8, a number out
of range. Such a token has no value, and only a reader that wants the value minds. A fault in the shape is a token
too, the last one.
-/

namespace SiteProbe.Json

/-- What is wrong with a text that is not JSON. -/
inductive Fault where
  | endOfText
  | unexpected (byte : UInt8)
  | badEscape
  | controlCharacter
  | badNumber
  | badWord
  | misplaced
  deriving DecidableEq, Repr

/-- The words of a fault. -/
def Fault.message : Fault → String
  | .endOfText => "the text ends too early"
  | .unexpected _ => "expected value"
  | .badEscape => "invalid escape"
  | .controlCharacter => "control character (\\u0000-\\u001F) found while parsing a string"
  | .badNumber => "invalid number"
  | .badWord => "expected ident"
  | .misplaced => "misplaced token"

/-- A token of a JSON text. -/
inductive Token where
  | openArray
  | closeArray
  | openObject
  | closeObject
  | comma
  | colon
  | null
  | bool (value : Bool)
  | number (value : Option Number)
  | string (value : Option String)
  | fault (fault : Fault)
  deriving Repr

/-- A decimal as it is written, the digits of each part last digit first. -/
structure Literal where
  negative : Bool
  whole : List Nat
  fraction : List Nat
  exponentNegative : Bool
  exponent : List Nat
  /-- Whether there is a point or an exponent. -/
  isDecimal : Bool
  deriving Repr

namespace Literal

/-- The bound of the significand, a word of 64 bits. -/
def significandBound : Nat := 18446744073709551616

/-- Take up digits while the significand fits; the number of digits left over comes with it. -/
def gather (significand : Nat) : List Nat → Nat × Nat
  | [] => (significand, 0)
  | d :: rest =>
    if significand * 10 + d < significandBound then gather (significand * 10 + d) rest
    else (significand, rest.length + 1)

/-- The number that a literal names. A decimal keeps as many leading digits as fit in 64 bits. -/
def toNumber? (l : Literal) : Option Number :=
  let (whole, skipped) := gather 0 l.whole.reverse
  if !l.isDecimal && skipped = 0 && !(l.negative && (whole = 0 || 9223372036854775808 < whole)) then
    some (.integer (if l.negative then -whole else whole))
  else do
    let (significand, dropped) := gather whole l.fraction.reverse
    let power : Int := skipped - (l.fraction.length - dropped : Nat)
    let e : Nat := l.exponent.reverse.foldl (fun n d => n * 10 + d) 0
    let x ← Binary64.ofDecimal significand (power + if l.exponentNegative then -(e : Int) else e)
    return .float (if l.negative then x.neg else x)

end Literal

/-- A piece of a string: a byte as it stands, or a UTF-16 unit written as an escape. -/
inductive Piece where
  | byte (b : UInt8)
  | unit (u : Nat)
  deriving Repr

/-- The bytes of a scalar value. -/
def scalarBytes (n : Nat) : List UInt8 := String.utf8EncodeChar (Char.ofNat n)

/-- The bytes of a string's pieces, if every surrogate is one of a pair. -/
def pieceBytes? : List Piece → Option (List UInt8)
  | [] => some []
  | .byte b :: rest => (pieceBytes? rest).map (b :: ·)
  | .unit u :: rest =>
    if u < 0xD800 ∨ 0xDFFF < u then (pieceBytes? rest).map (scalarBytes u ++ ·)
    else
      match rest with
      | .unit v :: rest =>
        if u < 0xDC00 ∧ 0xDC00 ≤ v ∧ v ≤ 0xDFFF then
          (pieceBytes? rest).map (scalarBytes (0x10000 + (u - 0xD800) * 1024 + (v - 0xDC00)) ++ ·)
        else none
      | _ => none

/-- The text of a string's pieces. -/
def pieceText? (pieces : List Piece) : Option String := (pieceBytes? pieces).bind Utf8.decode?

/-- Where in a number the scanner stands. -/
inductive NumberPlace where
  | minus | zero | whole | point | fraction | mark | sign | exponent
  deriving DecidableEq, Repr

/-- Whether a number may end here. -/
def NumberPlace.isEnd : NumberPlace → Bool
  | .zero | .whole | .fraction | .exponent => true
  | _ => false

/-- What the scanner is reading. Pieces of a string come last piece first. -/
inductive Mode where
  | blank
  | word (left : List UInt8) (token : Token)
  | number (literal : Literal) (place : NumberPlace)
  | string (pieces : List Piece)
  | escape (pieces : List Piece)
  | hex (pieces : List Piece) (missing : Nat) (value : Nat)
  | broken
  deriving Repr

/-- The scanner: what it is reading, and the tokens so far, last token first. -/
structure Scanner where
  mode : Mode
  tokens : List Token
  deriving Repr

namespace Scanner

/-- The scanner before the first byte. -/
def start : Scanner := ⟨.blank, []⟩

/-- A token is complete. -/
def emit (s : Scanner) (t : Token) : Scanner := ⟨.blank, t :: s.tokens⟩

/-- The text stops making sense. -/
def fail (s : Scanner) (f : Fault) : Scanner := ⟨.broken, .fault f :: s.tokens⟩

/-- The literal of no digits. -/
def emptyLiteral : Literal := ⟨false, [], [], false, [], false⟩

/-- The value of a digit. -/
def digit? (b : UInt8) : Option Nat := if 0x30 ≤ b && b ≤ 0x39 then some (b.toNat - 0x30) else none

/-- The value of a hexadecimal digit. -/
def hexDigit? (b : UInt8) : Option Nat :=
  if 0x30 ≤ b && b ≤ 0x39 then some (b.toNat - 0x30)
  else if 0x41 ≤ b && b ≤ 0x46 then some (b.toNat - 0x41 + 10)
  else if 0x61 ≤ b && b ≤ 0x66 then some (b.toNat - 0x61 + 10)
  else none

/-- A byte between tokens. -/
def stepBlank (s : Scanner) (b : UInt8) : Scanner :=
  if b = 0x20 || b = 0x09 || b = 0x0A || b = 0x0D then s
  else if b = 0x5B then s.emit .openArray
  else if b = 0x5D then s.emit .closeArray
  else if b = 0x7B then s.emit .openObject
  else if b = 0x7D then s.emit .closeObject
  else if b = 0x2C then s.emit .comma
  else if b = 0x3A then s.emit .colon
  else if b = 0x22 then { s with mode := .string [] }
  else if b = 0x6E then { s with mode := .word (Utf8.encode "ull") .null }
  else if b = 0x74 then { s with mode := .word (Utf8.encode "rue") (.bool true) }
  else if b = 0x66 then { s with mode := .word (Utf8.encode "alse") (.bool false) }
  else if b = 0x2D then { s with mode := .number { emptyLiteral with negative := true } .minus }
  else
    match digit? b with
    | some 0 => { s with mode := .number { emptyLiteral with whole := [0] } .zero }
    | some d => { s with mode := .number { emptyLiteral with whole := [d] } .whole }
    | none => s.fail (.unexpected b)

/-- A byte after which a number cannot go on: the number ends, and the byte is the first one behind it. -/
def endNumber (s : Scanner) (l : Literal) (place : NumberPlace) (b : UInt8) : Scanner :=
  if place.isEnd then (s.emit (.number l.toNumber?)).stepBlank b else s.fail .badNumber

/-- A byte within a number. -/
def stepNumber (s : Scanner) (l : Literal) (place : NumberPlace) (b : UInt8) : Scanner :=
  match digit? b, place with
  | some 0, .minus => { s with mode := .number { l with whole := [0] } .zero }
  | some d, .minus => { s with mode := .number { l with whole := [d] } .whole }
  | some _, .zero => s.fail .badNumber
  | some d, .whole => { s with mode := .number { l with whole := d :: l.whole } .whole }
  | some d, .point => { s with mode := .number { l with fraction := d :: l.fraction } .fraction }
  | some d, .fraction => { s with mode := .number { l with fraction := d :: l.fraction } .fraction }
  | some d, .mark => { s with mode := .number { l with exponent := d :: l.exponent } .exponent }
  | some d, .sign => { s with mode := .number { l with exponent := d :: l.exponent } .exponent }
  | some d, .exponent => { s with mode := .number { l with exponent := d :: l.exponent } .exponent }
  | none, _ =>
    if b = 0x2E && (place = .zero || place = .whole) then
      { s with mode := .number { l with isDecimal := true } .point }
    else if (b = 0x65 || b = 0x45) && (place = .zero || place = .whole || place = .fraction) then
      { s with mode := .number { l with isDecimal := true } .mark }
    else if b = 0x2B && place = .mark then { s with mode := .number l .sign }
    else if b = 0x2D && place = .mark then { s with mode := .number { l with exponentNegative := true } .sign }
    else s.endNumber l place b

/-- A byte after a backslash. -/
def stepEscape (s : Scanner) (pieces : List Piece) (b : UInt8) : Scanner :=
  let add (c : UInt8) : Scanner := { s with mode := .string (.byte c :: pieces) }
  if b = 0x22 || b = 0x5C || b = 0x2F then add b
  else if b = 0x62 then add 0x08
  else if b = 0x66 then add 0x0C
  else if b = 0x6E then add 0x0A
  else if b = 0x72 then add 0x0D
  else if b = 0x74 then add 0x09
  else if b = 0x75 then { s with mode := .hex pieces 4 0 }
  else s.fail .badEscape

/-- Look at one byte. -/
def step (s : Scanner) (b : UInt8) : Scanner :=
  match s.mode with
  | .blank => s.stepBlank b
  | .word [] t => (s.emit t).stepBlank b
  | .word [c] t => if b = c then s.emit t else s.fail .badWord
  | .word (c :: left) t => if b = c then { s with mode := .word left t } else s.fail .badWord
  | .number l place => s.stepNumber l place b
  | .string pieces =>
    if b = 0x22 then s.emit (.string (pieceText? pieces.reverse))
    else if b = 0x5C then { s with mode := .escape pieces }
    else if b < 0x20 then s.fail .controlCharacter
    else { s with mode := .string (.byte b :: pieces) }
  | .escape pieces => s.stepEscape pieces b
  | .hex pieces missing value =>
    match hexDigit? b with
    | none => s.fail .badEscape
    | some d =>
      if missing ≤ 1 then { s with mode := .string (.unit (value * 16 + d) :: pieces) }
      else { s with mode := .hex pieces (missing - 1) (value * 16 + d) }
  | .broken => s

/-- The tokens when no byte is left, in order. -/
def finish (s : Scanner) : List Token :=
  match s.mode with
  | .blank | .broken => s.tokens.reverse
  | .number l place =>
    if place.isEnd then (s.emit (.number l.toNumber?)).tokens.reverse else (s.fail .endOfText).tokens.reverse
  | _ => (s.fail .endOfText).tokens.reverse

end Scanner

/-- The tokens of a text. -/
def tokens (bytes : List UInt8) : List Token := (bytes.foldl Scanner.step .start).finish

end SiteProbe.Json
