import SiteProbe.FileTree
import SiteProbe.Program

/-!
The command line of the program: reads the rule file that is named and, if no target is, the input; then runs the
program on a host without a network, writes what it wrote and exits with its code. Rules in a folder are read by hosts
that list it for `Program.run`; this one reads single files.
-/

open SiteProbe

/-- Read a stream to its end. -/
partial def readAll (stream : IO.FS.Stream) (read : ByteArray) : IO ByteArray := do
  let more ← stream.read 65536
  if more.isEmpty then return read
  readAll stream (read ++ more)

/-- The input, unless it is a terminal. -/
def readInput : IO (List UInt8) := do
  let stream ← IO.getStdin
  if ← stream.isTty then return []
  return (← readAll stream .empty).toList

/-- What stands at a path. A folder is not listed here, so that its rules cannot be read: this is left to a host that
hands over what lies in the folder (`Source.folder`). -/
def readSource (path : String) : IO Source := do
  try
    return .file (.ok (← IO.FS.readBinFile path).toList)
  catch
    | .noFileOrDirectory _ _ _ => return .missing FileTree.notFound
    | .inappropriateType _ _ _ => return .folder (.error FileTree.isAFolder)
    | e => return .missing (toString e)

def main (args : List String) : IO UInt32 := do
  let (path, silent) := match CommandLine.ofArgs args with
    | .ok c => (some c.config.fingerprints, c.targets.isEmpty)
    | .error _ => (none, false)
  let input ← if silent then readInput else pure []
  let source ← match path with
    | some path => readSource path
    | none => pure (.missing FileTree.notFound)
  let answer (url : Url) (_ : Message) : Except Failure Reply := .error (Web.noNetwork url)
  let exit := Program.run args input (fun _ => source) answer []
  (← IO.getStdout).putStr exit.output
  (← IO.getStderr).putStr exit.errors
  return exit.code.toUInt32
