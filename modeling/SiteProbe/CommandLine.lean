import SiteProbe.Config
import SiteProbe.Report
import SiteProbe.Target

/-!
# Command lines

A command line is read from left to right (`CommandLine.ofArgs`). An option that takes a value finds it attached or in
the next argument, and the value is looked at when the next option, a target or the end comes; so the first thing wrong
in that order is the error. Switches can be put together behind one dash. Behind `--` there are only targets.
-/

namespace SiteProbe

/-- How reports are written. -/
inductive OutputFormat where
  | text
  | json
  | jsonLines
  deriving DecidableEq, Repr

/-- What a command line asks for. -/
structure CommandLine where
  urls : List String
  extraUrls : List String
  fingerprints : Option String
  format : OutputFormat
  insecure : Bool
  concurrency : Nat
  full : Bool
  verbose : Bool
  deriving DecidableEq, Repr

namespace CommandLine

/-- The command line that asks for nothing. -/
def start : CommandLine := ⟨[], [], none, .text, false, 4, false, false⟩

/-- What can be set, by options with a value and by switches. -/
inductive Setting where
  | url | fingerprints | format | concurrency
  | insecure | full | verbose | help | version
  deriving DecidableEq, Repr

/-- Whether a setting needs a value. -/
def Setting.takesValue : Setting → Bool
  | .url | .fingerprints | .format | .concurrency => true
  | _ => false

/-- Whether a setting may be given again. -/
def Setting.isRepeatable : Setting → Bool
  | .url => true
  | _ => false

/-- The long names of settings. -/
def longNames : List (String × Setting) :=
  [("url", .url), ("fingerprints", .fingerprints), ("format", .format), ("concurrency", .concurrency),
    ("insecure", .insecure), ("full", .full), ("verbose", .verbose), ("help", .help), ("version", .version)]

/-- The short names of settings. -/
def shortNames : List (Char × Setting) :=
  [('u', .url), ('F', .fingerprints), ('f', .format), ('c', .concurrency), ('k', .insecure), ('v', .verbose),
    ('h', .help), ('V', .version)]

/-- Why a command line asks for no detection. -/
inductive Stop where
  | help
  | version
  | missingValue (setting : Setting)
  | badValue (setting : Setting) (value : String)
  | badNumber (value : String)
  | repeated (setting : Setting)
  | unwantedValue (setting : Setting) (value : String)
  | unknown (argument : String)
  deriving DecidableEq, Repr

/-- A whole number of 64 bits in decimal digits, with or without a plus sign. -/
def readNumber? (s : String) : Option Nat :=
  let digits := match s.toList with
    | '+' :: rest => rest
    | cs => cs
  if digits.isEmpty || !digits.all Char.isDigit then none
  else
    let n := digits.foldl (fun n c => n * 10 + (c.toNat - 48)) 0
    if n < 18446744073709551616 then some n else none

/-- The format of a name. -/
def readFormat? : String → Option OutputFormat
  | "text" => some .text
  | "json" => some .json
  | "jsonl" => some .jsonLines
  | _ => none

/-- The reader of a command line: what was read, which settings were given, which one waits for its value to come or to
be looked at, and whether only targets can follow. -/
structure Reader where
  line : CommandLine
  given : List Setting
  pending : Option (Setting × Option String)
  onlyTargets : Bool

namespace Reader

/-- The reader before the first argument. -/
def start : Reader := ⟨.start, [], none, false⟩

/-- Take up that a setting is given. -/
def note (r : Reader) (s : Setting) : Except Stop Reader :=
  if r.given.contains s && !s.isRepeatable then .error (.repeated s) else .ok { r with given := s :: r.given }

/-- Take up a value. -/
def enter (r : Reader) (s : Setting) (value : String) : Except Stop Reader := do
  let r ← r.note s
  match s with
  | .url => return { r with line := { r.line with extraUrls := r.line.extraUrls ++ [value] } }
  | .fingerprints =>
    if value = "" then throw (.badValue s value)
    else return { r with line := { r.line with fingerprints := some value } }
  | .format =>
    match readFormat? value with
    | some f => return { r with line := { r.line with format := f } }
    | none => throw (.badValue s value)
  | _ =>
    match readNumber? value with
    | some n => return { r with line := { r.line with concurrency := n } }
    | none => throw (.badNumber value)

/-- Look at the value that is pending. -/
def settle (r : Reader) : Except Stop Reader :=
  match r.pending with
  | none => .ok r
  | some (s, none) => .error (.missingValue s)
  | some (s, some value) => { r with pending := none }.enter s value

/-- Throw a switch. -/
def throwSwitch (r : Reader) (s : Setting) : Except Stop Reader := do
  let r ← r.settle
  match s with
  | .help => throw .help
  | .version => throw .version
  | .insecure => do let r ← r.note s; return { r with line := { r.line with insecure := true } }
  | .full => do let r ← r.note s; return { r with line := { r.line with full := true } }
  | _ => do let r ← r.note s; return { r with line := { r.line with verbose := true } }

/-- Wait for the value of a setting. -/
def await (r : Reader) (s : Setting) : Except Stop Reader := do
  let r ← r.settle
  return { r with pending := some (s, none) }

/-- Take up a value that is attached to its option. -/
def attach (r : Reader) (s : Setting) (value : String) : Except Stop Reader := do (← r.settle).enter s value

/-- Take up a target. -/
def target (r : Reader) (url : String) : Except Stop Reader := do
  let r ← r.settle
  return { r with line := { r.line with urls := r.line.urls ++ [url] } }

/-- Read an option by its long name, what stands behind two dashes. -/
def long (r : Reader) (cs : List Char) : Except Stop Reader :=
  let (name, value) := match Text.cut? ['='] cs with
    | some (name, value) => (name, some (String.ofList value))
    | none => (cs, none)
  match longNames.lookup (String.ofList name), value with
  | none, _ => .error (.unknown ("--" ++ String.ofList name))
  | some s, some value => if s.takesValue then r.attach s value else .error (.unwantedValue s value)
  | some s, none => if s.takesValue then r.await s else r.throwSwitch s

/-- Read options by their short names, what stands behind one dash. -/
def short (r : Reader) : List Char → Except Stop Reader
  | [] => .ok r
  | c :: rest =>
    match shortNames.lookup c with
    | none => .error (.unknown (String.ofList ['-', c]))
    | some s =>
      if s.takesValue then
        match rest with
        | [] => r.await s
        | '=' :: value => r.attach s (String.ofList value)
        | value => r.attach s (String.ofList value)
      else do short (← r.throwSwitch s) rest

/-- Read an argument that is no option. -/
def plain (r : Reader) (arg : String) : Except Stop Reader :=
  match r.pending with
  | some (s, none) => .ok { r with pending := some (s, some arg) }
  | _ => r.target arg

/-- Read an argument. -/
def read (r : Reader) (arg : String) : Except Stop Reader :=
  if r.onlyTargets then r.target arg
  else
    match arg.toList with
    | ['-', '-'] => .ok { r with onlyTargets := true }
    | '-' :: '-' :: cs => r.long cs
    | '-' :: c :: cs => r.short (c :: cs)
    | _ => r.plain arg

end Reader

/-- Read a command line, without the name of the program. -/
def ofArgs (args : List String) : Except Stop CommandLine := do
  let r ← args.foldlM Reader.read .start
  return (← r.settle).line

/-- The targets of a command line, those without an option first. -/
def targets (c : CommandLine) : List String := Target.collect (c.urls ++ c.extraUrls)

/-- The configuration that a command line asks for. -/
def config (c : CommandLine) : Config :=
  { Config.standard with
    fingerprints := c.fingerprints.getD Config.standard.fingerprints
    insecure := c.insecure }

/-- The mode that a command line asks for. -/
def mode (c : CommandLine) : Mode := if c.full then .full else .httpOnly

end CommandLine
end SiteProbe
