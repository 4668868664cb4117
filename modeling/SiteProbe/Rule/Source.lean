import SiteProbe.Error
import SiteProbe.Rule.Store

/-!
# Sources of rules

Rules come from a file or from a folder, whose files with the extension `json` are read in the order of their names, so
that a later file replaces fingerprints of an earlier one. Loading gives all rules or the first error (`Source.load`).
-/

namespace SiteProbe

/-- What a file holds, or why it cannot be read. -/
abbrev FileContent := Except String (List UInt8)

/-- What stands at a path: something that cannot be reached, a file, or a folder with what lies in it. -/
inductive Source where
  | missing (reason : String)
  | file (content : FileContent)
  | folder (entries : Except String (List (String × FileContent)))

namespace Store

/-- Read the text of a rule file. -/
def ofBytes (bytes : List UInt8) : Except Json.Error Store := Json.decodeText Fingerprint.databaseOfDraft bytes

/-- Load rules that are at hand. -/
def load (bytes : List UInt8) : Except Error Store :=
  (ofBytes bytes).mapError fun e => .ruleLoad (Error.json e).message

/-- Load the rules of a file. -/
def loadFile (path : String) (content : FileContent) : Except Error Store :=
  match content with
  | .error reason => .error (.io reason)
  | .ok bytes =>
    (ofBytes bytes).mapError fun e => .ruleLoad ("failed to load " ++ path ++ ": " ++ (Error.json e).message)

end Store

namespace Source

/-- What follows the last dot of a file name that does not merely start with it. -/
def extension? (name : String) : Option String :=
  match (Text.pieces (· = '.') name.toList).reverse with
  | [] => none
  | [_] => none
  | [_, []] => none
  | last :: _ => some (String.ofList last)

/-- The path of what lies in a folder. -/
def child (folder name : String) : String :=
  if folder.toList.getLast? = some '/' then folder ++ name else folder ++ "/" ++ name

/-- The rule files of a folder in the order of their names. -/
def ruleFiles (entries : List (String × FileContent)) : Dict String FileContent :=
  .ofList (entries.filter fun e => extension? e.1 = some "json")

/-- Load rule files one after the other. -/
def loadAll (folder : String) : Store → List (String × FileContent) → Except Error Store
  | s, [] => .ok s
  | s, (name, content) :: rest => do
    let t ← Store.loadFile (child folder name) content
    loadAll folder (s.extend t) rest

/-- Load the rules that come from a path. -/
def load (path : String) : Source → Except Error Store
  | .missing reason => .error (.ruleLoad ("cannot access " ++ path ++ ": " ++ reason))
  | .file content => Store.loadFile path content
  | .folder (.error reason) => .error (.io reason)
  | .folder (.ok entries) => loadAll path .empty (ruleFiles entries).toList

end Source
end SiteProbe
