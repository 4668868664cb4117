import SiteProbe.Rule.Fingerprint

/-!
# Stores of rules

A store holds the fingerprints of technologies by name. It also describes what was detected (`Store.describe`).
-/

namespace SiteProbe

/-- The fingerprints of technologies, in the order of their names. -/
abbrev Store := Dict String Fingerprint

/-- A technology that was detected; the version is empty if it is not known. -/
structure Technology where
  name : String
  version : String
  categories : List UInt32
  website : Option String
  description : Option String
  icon : Option String
  cpe : Option String
  deriving DecidableEq, Repr

namespace Technology

/-- The name, and the version if it is known. -/
def display (t : Technology) : String := if t.version = "" then t.name else t.name ++ " " ++ t.version

/-- A technology as a JSON value, without what is not known of it. -/
def toJson (t : Technology) : Json :=
  let known (name : String) (value : Option String) := value.toList.map fun s => (name, Json.string s)
  .object ([("name", .string t.name), ("version", .string t.version),
      ("categories", .array (t.categories.map Json.ofWord))]
    ++ known "website" t.website ++ known "description" t.description ++ known "icon" t.icon ++ known "cpe" t.cpe)

end Technology

namespace Store

/-- The technologies that a technology implies. -/
def impliesOf (s : Store) (name : String) : List String := ((s.get? name).map (·.implies)).getD []

/-- What the store knows of a technology that was detected. -/
def describe (s : Store) (name version : String) : Technology :=
  match s.get? name with
  | some f => ⟨name, version, f.categories, f.website, f.description, f.icon, f.cpe⟩
  | none => ⟨name, version, [], none, none, none, none⟩

/-- Put in the fingerprints of another store, which replace those of the same name. -/
def extend (s t : Store) : Store := s.insertAll t.toList

end Store
end SiteProbe
