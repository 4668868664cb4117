import SiteProbe.Unicode.Age
import SiteProbe.Unicode.Fold
import SiteProbe.Unicode.Property
import SiteProbe.Unicode.Script

/-!
# Named classes of characters

The classes with one letter (`digits`, `spaces`, `words`), the bracketed ASCII classes (`posix?`) and the classes of a
property of characters (`Query.set?`). The three properties of text segmentation, which say where a character of a
reader, a word or a sentence ends, are left out, so that an expression that asks for one of them is refused.
-/

namespace SiteProbe.Regex

open Unicode

namespace Class

/-- Decimal digits. -/
def digits : CodeSet := (Category.find? "nd").getD .empty

/-- White space. -/
def spaces : CodeSet := (Property.find? "whitespace").getD .empty

/-- Letters and what counts as such. -/
def letters : CodeSet := Property.Formula.alphabetic.set

/-- Numbers of all kinds. -/
def numbers : CodeSet := (Category.find? "n").getD .empty

/-- The characters of words. -/
def words : CodeSet :=
  .unions [letters, (Category.find? "m").getD .empty, digits,
    (Category.find? "pc").getD .empty, (Property.find? "joincontrol").getD .empty]

/-- Decimal digits in ASCII. -/
def asciiDigits : CodeSet := readRanges ["30-39"]

/-- White space in ASCII. -/
def asciiSpaces : CodeSet := readRanges ["9-D 20"]

/-- The characters of words in ASCII. -/
def asciiWords : CodeSet := readRanges ["30-39 41-5A 5F 61-7A"]

/-- The ASCII classes by name. -/
def posix : List (String × CodeSet) := [
  ("alnum", readRanges ["30-39 41-5A 61-7A"]),
  ("alpha", readRanges ["41-5A 61-7A"]),
  ("ascii", readRanges ["0-7F"]),
  ("blank", readRanges ["9 20"]),
  ("cntrl", readRanges ["0-1F 7F"]),
  ("digit", readRanges ["30-39"]),
  ("graph", readRanges ["21-7E"]),
  ("lower", readRanges ["61-7A"]),
  ("print", readRanges ["20-7E"]),
  ("punct", readRanges ["21-2F 3A-40 5B-60 7B-7E"]),
  ("space", readRanges ["9-D 20"]),
  ("upper", readRanges ["41-5A"]),
  ("word", readRanges ["30-39 41-5A 5F 61-7A"]),
  ("xdigit", readRanges ["30-39 41-46 61-66"])]

/-- The ASCII class with a name. -/
def posix? (name : String) : Option CodeSet := posix.lookup name

/-- A property of characters: alone, or with a value. -/
inductive Query where
  | named (name : String)
  | valued (name value : String)
  deriving DecidableEq, Repr

/-- The characters that a query asks for. A name alone is a property that holds or not, a category or a script, tried
in this order; three short names are categories although they name properties too. The properties with values are
categories, scripts and ages; there is no set for those of text segmentation. -/
def Query.set? : Query → Option CodeSet
  | .named name =>
    let loose := looseName name
    let property := if ["cf", "sc", "lc"].contains loose then none else Property.find? loose
    property <|> Category.find? loose <|> Script.find? loose
  | .valued name value =>
    let loose := looseName value
    match looseName name with
    | "gc" | "generalcategory" => Category.find? loose
    | "sc" | "script" => Script.find? loose
    | "scx" | "scriptextensions" => Script.findShared? loose
    | "age" => Age.find? loose
    | _ => none

/-- The set with both cases of its ASCII letters. -/
def asciiClosure (s : CodeSet) : CodeSet :=
  let letters := (List.range 26).filter fun i => s.contains (0x41 + i) || s.contains (0x61 + i)
  s.union (.ofRanges (letters.flatMap fun i => [(0x41 + i, 0x41 + i), (0x61 + i, 0x61 + i)]))

end Class
end SiteProbe.Regex
