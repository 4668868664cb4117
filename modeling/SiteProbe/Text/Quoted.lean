import SiteProbe.Unicode.Category
import SiteProbe.Unicode.Property

/-!
# Quoted texts

A text between quotes, in which what cannot be seen, or joins the character before it, is written as an escape.
-/

namespace SiteProbe.Text.Quoted

/-- The characters that cannot be seen: controls, formats, separators and what is no character. -/
def unseen : CodeSet := ((Unicode.Category.find? "c").getD .empty).union ((Unicode.Category.find? "z").getD .empty)

/-- The characters that join the one before them. -/
def joining : CodeSet := Unicode.Property.Formula.graphemeExtend.set

/-- Whether a character stands for itself. -/
def isPlain (c : Char) : Bool :=
  if c.toNat < 0x7F then 0x20 ≤ c.toNat else !unseen.contains c.toNat && !joining.contains c.toNat

/-- The hexadecimal digits of a number. -/
def hexDigits (n : Nat) : List Char := Nat.toDigits 16 n

/-- The characters that stand for a character between quotes. -/
def escape (c : Char) : List Char :=
  if c = '\x00' then ['\\', '0']
  else if c = '\t' then ['\\', 't']
  else if c = '\n' then ['\\', 'n']
  else if c = '\r' then ['\\', 'r']
  else if c = '"' then ['\\', '"']
  else if c = '\\' then ['\\', '\\']
  else if isPlain c then [c]
  else ['\\', 'u', '\x7b'] ++ hexDigits c.toNat ++ ['\x7d']

/-- A text between quotes. -/
def quote (s : String) : String := "\"" ++ String.ofList (s.toList.flatMap escape) ++ "\""

end SiteProbe.Text.Quoted
