import SiteProbe.Batch
import SiteProbe.CommandLine
import SiteProbe.Web.Offline

/-!
# The program

What the program does with a command line, with lines from its input if the command line names no target, and with
what files and the web hold: what it writes, and the code it exits with (`Program.run`).
-/

namespace SiteProbe

/-- How a program ends: its exit code and what it wrote. -/
structure Exit where
  code : Nat
  output : String
  errors : String
  deriving DecidableEq, Repr

namespace Program

/-- The name and the version. -/
def versionText : String := "techdetect 0.1.0\n"

/-- How the program is called. -/
def helpText : String :=
  String.join (["Detect web technologies by probing a site with declarative fingerprint rules", "",
    "Usage: techdetect [OPTIONS] [URLS]...", "",
    "  [URLS]...                          Targets; without any, they are read from the input, one a line",
    "  -u, --url <EXTRA_URLS>             Additional target URL (repeatable)",
    "  -F, --fingerprints <FINGERPRINTS>  Fingerprint rules: a JSON file or a directory of *.json files",
    "  -f, --format <FORMAT>              Output format: text, json or jsonl",
    "  -k, --insecure                     Skip TLS certificate verification",
    "  -c, --concurrency <CONCURRENCY>    Number of targets processed concurrently",
    "      --full                         Also run the augmentation stage when an augmenter is available",
    "  -v, --verbose                      Enable debug logging",
    "  -h, --help                         Print help",
    "  -V, --version                      Print version"].map (· ++ "\n"))

/-- The words for a command line that asks for no detection. -/
def stopText : CommandLine.Stop → String
  | .help => helpText
  | .version => versionText
  | .missingValue _ => "error: a value is required for an option but none was supplied\n"
  | .badValue _ value => "error: invalid value '" ++ value ++ "'\n"
  | .badNumber value => "error: invalid value '" ++ value ++ "': no whole number\n"
  | .repeated _ => "error: an option cannot be used multiple times\n"
  | .unwantedValue _ value => "error: unexpected value '" ++ value ++ "' found; no more were expected\n"
  | .unknown argument => "error: unexpected argument '" ++ argument ++ "' found\n"

/-- The end of a program whose command line asks for no detection. -/
def stopped : CommandLine.Stop → Exit
  | .help => ⟨0, stopText .help, ""⟩
  | .version => ⟨0, stopText .version, ""⟩
  | s => ⟨2, "", stopText s⟩

/-- The targets to scan: those of the command line, or else those of the input. -/
def targets (c : CommandLine) (input : List UInt8) : Except String (List String) :=
  if c.targets.isEmpty then
    match Utf8.decode? input with
    | none =>
      .error "Error: failed to read targets from stdin\n\nCaused by:\n    stream did not contain valid UTF-8\n"
    | some text =>
      match Target.collect (Target.lines text) with
      | [] => .error "Error: no target URL given (pass URLs as arguments, with --url, or on stdin)\n"
      | found => .ok found
  else .ok c.targets

/-- What is written of a report as soon as it comes: all of it, unless the reports are to be one document. -/
def emit : OutputFormat → Report → String
  | .text, r => r.text
  | .jsonLines, r => r.jsonLine ++ "\n"
  | .json, _ => ""

/-- What has been written when some reports have come, one after the other. -/
def written (f : OutputFormat) (rs : List Report) : String := rs.foldl (fun out r => out ++ emit f r) ""

/-- What is written behind the last report. -/
def conclude : OutputFormat → List Report → String
  | .json, rs => Report.jsonDocument rs ++ "\n"
  | _, _ => ""

/-- All that is written when the last report has come. -/
def output (f : OutputFormat) (rs : List Report) : String := written f rs ++ conclude f rs

/-- The end of a program that has no detector: every target gets the error. -/
def undetected (c : CommandLine) (targets : List String) (e : Error) : Exit :=
  let rs := targets.map fun url => Report.failure url c.mode e.message
  match c.format with
  | .text => ⟨1, "", output .text rs⟩
  | f => ⟨1, output f rs, ""⟩

/-- The conversation that leads to the report of a target. -/
def scan (d : Detector) (mode : Mode) (url : String) : Conversation Report := do
  return .ofResult url mode d.store (← d.detectHttp (d.world Conversation.web fun _ => return ()) url)

/-- The reports of targets, scanned at the same time as far as the limit allows. -/
def scanAll (d : Detector) (c : CommandLine) (answer : Url → Message → Except Failure Reply) (schedule : List Nat)
    (targets : List String) : List Report :=
  Batch.run (max c.concurrency 1) (scan d c.mode) answer schedule targets

/-- Run the program. The schedule says in which order the scans that are under way go on. -/
def run (args : List String) (input : List UInt8) (source : String → Source)
    (answer : Url → Message → Except Failure Reply) (schedule : List Nat) : Exit :=
  match CommandLine.ofArgs args with
  | .error s => stopped s
  | .ok c =>
    match targets c input with
    | .error text => ⟨1, "", text⟩
    | .ok targets =>
      match Detector.load source c.config with
      | .error e => undetected c targets e
      | .ok d => ⟨0, output c.format (scanAll d c answer schedule targets), ""⟩

end Program
end SiteProbe
