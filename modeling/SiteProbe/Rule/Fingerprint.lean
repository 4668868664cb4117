import SiteProbe.Rule.Probe
import SiteProbe.Text.Cut

/-!
# Fingerprints

A fingerprint says how to find a technology, what it implies and what is known of it. The technologies it implies are
written as a list or as one string with commas; either way they are trimmed, and empty ones do not count.
-/

namespace SiteProbe

/-- How to find a technology, and what is known of it. -/
structure Fingerprint where
  categories : List UInt32
  implies : List String
  paths : List Probe
  scripts : List ScriptProbe
  description : Option String
  website : Option String
  icon : Option String
  cpe : Option String
  deriving Inhabited

namespace Fingerprint

/-- Trimmed names, without empty ones. -/
def cleanNames (names : List String) : List String := (names.map Text.trim).filter (· ≠ "")

/-- The names of implied technologies in a JSON value. -/
def impliesOfJson : Json → Except Json.Error (List String)
  | .null => .ok []
  | .string s => .ok (cleanNames ((Text.pieces (· = ',') s.toList).map String.ofList))
  | .array items => .ok (cleanNames (items.filterMap Json.string?))
  | v => .error (.custom ("implies must be a string or list, got " ++ v.compress))

/-- The fields of a fingerprint that have been read. -/
structure Fields where
  categories : Option (List UInt32)
  implies : Option (List String)
  paths : Option (List Probe)
  scripts : Option (List ScriptProbe)
  description : Option (Option String)
  website : Option (Option String)
  icon : Option (Option String)
  cpe : Option (Option String)

/-- The fields in the order in which a list gives them. -/
def fieldNames : List String := ["cats", "implies", "paths", "browser", "description", "website", "icon", "cpe"]

/-- Second names of fields. -/
def aliases : List String := ["categories", "augmentation"]

/-- Take up a field. -/
def Fields.take (room : Nat) (s : Fields) (name : String) (d : Json.Draft) : Except Json.Error Fields :=
  match name with
  | "cats" | "categories" =>
    return { s with categories := ← Json.Draft.once s.categories name (d.list (fun _ d => d.word32) room) }
  | "implies" => return { s with implies := ← Json.Draft.once s.implies name (d.toJson room >>= impliesOfJson) }
  | "paths" => return { s with paths := ← Json.Draft.once s.paths name (d.list Probe.ofDraft room) }
  | "browser" | "augmentation" =>
    return { s with scripts := ← Json.Draft.once s.scripts name (d.list ScriptProbe.ofDraft room) }
  | "description" =>
    return { s with description := ← Json.Draft.once s.description name (d.optional Json.Draft.text) }
  | "website" => return { s with website := ← Json.Draft.once s.website name (d.optional Json.Draft.text) }
  | "icon" => return { s with icon := ← Json.Draft.once s.icon name (d.optional Json.Draft.text) }
  | _ => return { s with cpe := ← Json.Draft.once s.cpe name (d.optional Json.Draft.text) }

/-- Read a fingerprint. -/
def ofDraft (room : Nat) (d : Json.Draft) : Except Json.Error Fingerprint := do
  let s ← d.record "Fingerprint" fieldNames aliases Fields.take ⟨none, none, none, none, none, none, none, none⟩ room
  return ⟨s.categories.getD [], s.implies.getD [], s.paths.getD [], s.scripts.getD [], s.description.join,
    s.website.join, s.icon.join, s.cpe.join⟩

/-- Read the fingerprints of a rule file, by the names of their technologies. -/
def databaseOfDraft (room : Nat) (d : Json.Draft) : Except Json.Error (Dict String Fingerprint) := do
  let take (room : Nat) (s : Option (Dict String Fingerprint)) (name : String) (d : Json.Draft) :=
    Json.Draft.once s name (d.dict ofDraft room)
  let s ← d.record "FingerprintDb" ["apps"] [] take none room
  return s.getD .empty

end Fingerprint
end SiteProbe
