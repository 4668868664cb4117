import SiteProbe.Text.Cut
import SiteProbe.Text.Utf8
import SiteProbe.Unicode.Category
import SiteProbe.Unicode.Normal
import SiteProbe.Url.Direction
import SiteProbe.Url.DomainMap
import SiteProbe.Url.Joining
import SiteProbe.Url.Punycode

/-!
# Domains

A domain is written in ASCII: every character becomes what it stands for, the text is composed, and a label that is not
in ASCII is encoded behind `xn--`. A label that is encoded already must be one that would be written so
(`Domain.toAscii?`). A domain in plain ASCII is only written in small letters.
-/

namespace SiteProbe.Url.Domain

open Unicode

/-- The characters of ASCII that a domain may not hold. -/
def forbidden : List Char := ['%', '#', '/', ':', '<', '>', '?', '@', '[', '\\', ']', '^', '|']

/-- Whether a character of ASCII may stand in a domain. -/
def isAllowed (c : Char) : Bool := 0x20 < c.toNat && c.toNat ≠ 0x7F && !forbidden.contains c

/-- What a character stands for, if it may occur. -/
def image? (c : Char) : Option (List Char) :=
  let n := c.toNat
  if n < 0x80 then some [c.toLower]
  else if DomainMap.valid.contains n then some [c]
  else
    match CodeMap.image? DomainMap.runs n with
    | some m => some [Char.ofNat m]
    | none =>
      match DomainMap.longer.lookup n with
      | some ms => some (ms.map Char.ofNat)
      | none => if DomainMap.ignored.contains n then some [] else none

/-- A text in which every character stands for itself, in composed normal form. -/
def normalize? (cs : List Char) : Option (List Char) := (cs.mapM image?).map fun parts => Normal.compose parts.flatten

/-- The marks of all scripts. -/
def marks : CodeSet := (Category.find? "m").getD .empty

/-- The front of an encoded label. -/
def encodedMark : List Char := ['x', 'n', '-', '-']

/-- Whether a label is in ASCII. -/
def isAscii (label : List Char) : Bool := label.all fun c => c.toNat < 0x80

/-- A label as it is meant: an encoded one must decode to a text that is in normal form and not in ASCII. -/
def decodeLabel? (label : List Char) : Option (List Char) :=
  if encodedMark.isPrefixOf label then
    match Punycode.decode? (label.drop 4) with
    | none => none
    | some decoded =>
      if decoded.isEmpty || isAscii decoded || normalize? decoded ≠ some decoded then none else some decoded
  else some label

/-- Whether a label may stand in a domain: it starts with no mark, and its joiners and ASCII characters are allowed. -/
def isLabel (label : List Char) : Bool :=
  !(label.head?.any fun c => marks.contains c.toNat) && Joining.allAllowed [] label
    && label.all fun c => 0x80 ≤ c.toNat || isAllowed c

/-- A label in ASCII. -/
def encodeLabel (label : List Char) : List Char :=
  if isAscii label then label else encodedMark ++ Punycode.encode label

/-- The labels of a domain that is not plain ASCII. -/
def labels? (cs : List Char) : Option (List (List Char)) := do
  let normal ← normalize? cs
  let labels ← (Text.pieces (· = '.') normal).mapM decodeLabel?
  let directed := !(labels.any Direction.isRightToLeft) || labels.all Direction.keepsRule
  if labels.all isLabel && directed then return labels else none

/-- Whether some label of a domain in small letters is encoded. -/
def hasEncodedLabel (cs : List Char) : Bool := (Text.pieces (· = '.') cs).any encodedMark.isPrefixOf

/-- The ASCII form of a domain. -/
def toAscii? (bytes : List UInt8) : Option (List Char) := do
  let some text := Utf8.decode? bytes | none
  let cs := text.toList
  if isAscii cs && !hasEncodedLabel (cs.map Char.toLower) then
    if cs.all isAllowed then return cs.map Char.toLower else none
  else
    let labels ← labels? cs
    return List.intercalate ['.'] (labels.map encodeLabel)

end SiteProbe.Url.Domain
