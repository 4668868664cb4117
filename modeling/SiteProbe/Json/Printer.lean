import SiteProbe.Json.Basic

/-!
# JSON text of values

The compact form has no blanks (`compress`), the pretty form one item or member a line, indented by two spaces
(`pretty`). Within a string the quote, the backslash and the control characters below U+0020 are escaped, and
nothing else.
-/

namespace SiteProbe.Json

/-- Numbers are positional from `0.00001` up to sixteen digits before the point. -/
def floatStyle : Binary64.Style := { leastPoint := -4, greatestPoint := 16, plus := "+" }

/-- The text of a number. -/
def Number.render : Number → String
  | .integer n => toString n
  | .float x => x.render floatStyle

/-- The lower-case hexadecimal digit of a value below sixteen. -/
def hexDigit (n : Nat) : Char := if n < 10 then Char.ofNat (48 + n) else Char.ofNat (87 + n)

/-- The characters that stand for one character of a string. -/
def escape (c : Char) : List Char :=
  if c = '"' then ['\\', '"']
  else if c = '\\' then ['\\', '\\']
  else if c = '\x08' then ['\\', 'b']
  else if c = '\x0c' then ['\\', 'f']
  else if c = '\n' then ['\\', 'n']
  else if c = '\r' then ['\\', 'r']
  else if c = '\t' then ['\\', 't']
  else if c.toNat < 0x20 then ['\\', 'u', '0', '0', hexDigit (c.toNat / 16), hexDigit (c.toNat % 16)]
  else [c]

/-- The text of a string, between quotes. -/
def quote (s : String) : String := "\"" ++ String.ofList (s.toList.flatMap escape) ++ "\""

mutual

/-- The text of a value without any blank. -/
def compress : Json → String
  | .null => "null"
  | .bool b => if b then "true" else "false"
  | .number n => n.render
  | .string s => quote s
  | .array [] => "[]"
  | .array (v :: rest) => "[" ++ v.compress ++ compressItems rest ++ "]"
  | .object [] => "\x7b\x7d"
  | .object ((k, v) :: rest) => "\x7b" ++ quote k ++ ":" ++ v.compress ++ compressMembers rest ++ "\x7d"

/-- The items after the first, each behind a comma. -/
def compressItems : List Json → String
  | [] => ""
  | v :: rest => "," ++ v.compress ++ compressItems rest

/-- The members after the first, each behind a comma. -/
def compressMembers : List (String × Json) → String
  | [] => ""
  | (k, v) :: rest => "," ++ quote k ++ ":" ++ v.compress ++ compressMembers rest

end

/-- A line break and the indentation of a level. -/
def newline (level : Nat) : String := "\n" ++ String.ofList (List.replicate (2 * level) ' ')

mutual

/-- The indented text of a value that stands at a level. -/
def prettyAt (level : Nat) : Json → String
  | .array [] => "[]"
  | .array (v :: rest) =>
    "[" ++ newline (level + 1) ++ v.prettyAt (level + 1) ++ prettyItems (level + 1) rest ++ newline level ++ "]"
  | .object [] => "\x7b\x7d"
  | .object ((k, v) :: rest) =>
    "\x7b" ++ newline (level + 1) ++ quote k ++ ": " ++ v.prettyAt (level + 1) ++ prettyMembers (level + 1) rest
      ++ newline level ++ "\x7d"
  | .null => "null"
  | .bool b => if b then "true" else "false"
  | .number n => n.render
  | .string s => quote s

/-- The indented items after the first. -/
def prettyItems (level : Nat) : List Json → String
  | [] => ""
  | v :: rest => "," ++ newline level ++ v.prettyAt level ++ prettyItems level rest

/-- The indented members after the first. -/
def prettyMembers (level : Nat) : List (String × Json) → String
  | [] => ""
  | (k, v) :: rest => "," ++ newline level ++ quote k ++ ": " ++ v.prettyAt level ++ prettyMembers level rest

end

/-- The text of a value, indented by two spaces a level. -/
def pretty (v : Json) : String := v.prettyAt 0

end SiteProbe.Json
