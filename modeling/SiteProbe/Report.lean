import SiteProbe.Detector

/-!
# Reports

What is told of a target: what was found, or the error. A report is written as lines for readers (`Report.text`) or as
a JSON object (`Report.toJson`), which leaves out what there is nothing to say of.
-/

namespace SiteProbe

/-- Whether a detection goes by the pages alone or in full. -/
inductive Mode where
  | httpOnly
  | full
  deriving DecidableEq, Repr

/-- The name of a mode. -/
def Mode.name : Mode → String
  | .httpOnly => "http_only"
  | .full => "full"

/-- What is told of a target. -/
structure Report where
  url : String
  technologies : List Technology
  failedPaths : List String
  mode : Mode
  error : Option String
  deriving DecidableEq, Repr

namespace Report

/-- The report of what was found. -/
def success (url : String) (mode : Mode) (f : Findings) (s : Store) : Report :=
  ⟨url, f.describe s, f.failedPaths, mode, none⟩

/-- The report of an error. -/
def failure (url : String) (mode : Mode) (error : String) : Report := ⟨url, [], [], mode, some error⟩

/-- The report of a detection, however it ended. -/
def ofResult (url : String) (mode : Mode) (s : Store) : Except Error Findings → Report
  | .ok f => success url mode f s
  | .error e => failure url mode e.message

/-- A line of a report for readers. -/
def line (text : String) : String := "  " ++ text ++ "\n"

/-- The report for readers. -/
def text (r : Report) : String :=
  r.url ++ "\n" ++
    match r.error with
    | some e => line ("error: " ++ e)
    | none =>
      (if r.technologies.isEmpty then line "(no technologies detected)" else "")
        ++ String.join (r.technologies.map fun t => line t.display)
        ++ if r.failedPaths.isEmpty then "" else line ("failed paths: " ++ ", ".intercalate r.failedPaths)

/-- The report as a JSON object. -/
def toJson (r : Report) : Json :=
  let failed := if r.failedPaths.isEmpty then [] else [("failed_paths", Json.array (r.failedPaths.map .string))]
  let error := r.error.toList.map fun e => ("error", Json.string e)
  .object ([("url", .string r.url), ("technologies", .array (r.technologies.map Technology.toJson))] ++ failed
    ++ [("mode", .string r.mode.name)] ++ error)

/-- The report as one line of JSON text. -/
def jsonLine (r : Report) : String := r.toJson.compress

/-- All reports as one JSON document. -/
def jsonDocument (rs : List Report) : String := (Json.object [("results", .array (rs.map toJson))]).pretty

end Report
end SiteProbe
