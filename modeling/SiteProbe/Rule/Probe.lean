import SiteProbe.Query.Outcome
import SiteProbe.Query.VersionRule
import SiteProbe.Rule.Request

/-!
# Probes

A probe looks for a technology at a path: an HTTP probe by a query on the page there, a script probe by scripts that
run on it. A query or a pattern that is not written as it should be is no error; it never matches.
-/

namespace SiteProbe

/-- A probe of the page at a path. -/
structure Probe where
  path : String
  request : Option Request
  detect : Query
  versionRules : List VersionRule
  deriving Inhabited

namespace Probe

/-- The request of a probe, a plain one if it asks for none. -/
def requestOrPlain (p : Probe) : Request := p.request.getD .plain

/-- The fields of a probe that have been read. -/
structure Fields where
  path : Option String
  request : Option (Option Request)
  detect : Option Query
  versionRules : Option (List VersionRule)

/-- Read a query. -/
def queryOfDraft (room : Nat) (d : Json.Draft) : Except Json.Error Query := Query.ofJson <$> d.toJson room

/-- Read version rules: null, or a list of objects. -/
def versionRulesOfDraft (room : Nat) (d : Json.Draft) : Except Json.Error (List VersionRule) := do
  let maps ← d.optional (Json.Draft.list (fun room d => Dict.toList <$> d.dict Json.Draft.toJson room) room)
  return VersionRule.ofMaps (maps.getD [])

/-- Take up a field. -/
def Fields.take (room : Nat) (s : Fields) (name : String) (d : Json.Draft) : Except Json.Error Fields :=
  match name with
  | "path" => return { s with path := ← Json.Draft.once s.path name d.text }
  | "request" =>
    return { s with request := ← Json.Draft.once s.request name (d.optional (Request.ofDraft room)) }
  | "detect" => return { s with detect := ← Json.Draft.once s.detect name (queryOfDraft room d) }
  | _ => return { s with versionRules := ← Json.Draft.once s.versionRules name (versionRulesOfDraft room d) }

/-- Read a probe. -/
def ofDraft (room : Nat) (d : Json.Draft) : Except Json.Error Probe := do
  let s ← d.record "HttpProbe" ["path", "request", "detect", "extract_version"] [] Fields.take
    ⟨none, none, none, none⟩ room
  let some path := s.path | throw (.missingField "path")
  return ⟨path, s.request.join, s.detect.getD .never, s.versionRules.getD []⟩

end Probe

/-- A probe by scripts: one that tells whether the technology is there, one that tells its version; either may be
empty. -/
structure ScriptProbe where
  path : String
  detection : String
  version : String
  deriving DecidableEq, Repr, Inhabited

namespace ScriptProbe

/-- The fields of a script probe that have been read. -/
structure Fields where
  path : Option String
  detection : Option String
  version : Option String

/-- Take up a field. -/
def Fields.take (_ : Nat) (s : Fields) (name : String) (d : Json.Draft) : Except Json.Error Fields :=
  match name with
  | "path" => return { s with path := ← Json.Draft.once s.path name d.text }
  | "detection" => return { s with detection := ← Json.Draft.once s.detection name d.text }
  | _ => return { s with version := ← Json.Draft.once s.version name d.text }

/-- Read a script probe. -/
def ofDraft (room : Nat) (d : Json.Draft) : Except Json.Error ScriptProbe := do
  let s ← d.record "AugmentProbe" ["path", "detection", "version"] [] Fields.take ⟨none, none, none⟩ room
  let some path := s.path | throw (.missingField "path")
  return ⟨path, s.detection.getD "", s.version.getD ""⟩

end ScriptProbe
end SiteProbe
