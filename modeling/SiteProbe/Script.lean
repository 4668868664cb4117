import SiteProbe.Detections
import SiteProbe.Error
import SiteProbe.Rule.Group
import SiteProbe.Url.Location

/-!
# Script probes

Script probes look for technologies on pages that are open in a browser, one page for each path
(`ScriptRuntime.augment`). Scripts run only for what they can still find out: whether a technology is there, or the
version of one that is. A page that does not open and a script that fails find nothing; they are no errors.
-/

namespace SiteProbe

/-- What opens pages and evaluates scripts on them. -/
structure ScriptRuntime (m : Type → Type) where
  navigate : String → m (Except Error Unit)
  evalBool : String → m (Except Error Bool)
  evalText : String → m (Except Error String)

namespace ScriptProbe

/-- A script that can be evaluated: the body of a function, called on the spot. -/
def wrap (body : String) : String := "(function()\x7b " ++ body ++ " \x7d)()"

/-- Whether a probe has a script that tells whether the technology is there. -/
def canDetect (p : ScriptProbe) : Bool := p.detection ≠ ""

/-- Whether a probe has a script that tells the version. -/
def canTellVersion (p : ScriptProbe) : Bool := p.version ≠ ""

/-- Whether a probe can find out anything new of a technology. -/
def shouldRun (p : ScriptProbe) (name : String) (found : Detections) : Bool :=
  match found.get? name with
  | none => p.canDetect
  | some version => version = "" && p.canTellVersion

end ScriptProbe

namespace ScriptRuntime

variable {m : Type → Type} [Monad m]

/-- Whether the detection script of a probe says that the technology is there. -/
def detects (rt : ScriptRuntime m) (p : ScriptProbe) : m Bool :=
  if p.canDetect then do return (← rt.evalBool (ScriptProbe.wrap p.detection)).toOption.getD false
  else return false

/-- The version that the version script of a probe gives. -/
def versionOf (rt : ScriptRuntime m) (p : ScriptProbe) : m String := do
  return (← rt.evalText (ScriptProbe.wrap p.version)).toOption.getD ""

/-- Run the probes of a technology in order until one finds something. -/
def runProbes (rt : ScriptRuntime m) (name : String) (found : Detections) : List ScriptProbe → m Detections
  | [] => return found
  | p :: rest =>
    if p.shouldRun name found then do
      let detected ← rt.detects p
      let version ← if p.canTellVersion && (detected || found.contains name) then rt.versionOf p else pure ""
      if detected || (version ≠ "" && found.contains name) then return (found.update name version).1
      else rt.runProbes name found rest
    else rt.runProbes name found rest

/-- Run the probes of all technologies of a group on the page that is open. -/
def runTechnologies (rt : ScriptRuntime m) (found : Detections) : List (String × List ScriptProbe) → m Detections
  | [] => return found
  | (name, probes) :: rest => do rt.runTechnologies (← rt.runProbes name found probes) rest

/-- Go through the groups; one whose page does not open is left out. -/
def runGroups (rt : ScriptRuntime m) (target : String) (found : Detections) : List ScriptGroup → m Detections
  | [] => return found
  | g :: rest => do
    match ← rt.navigate (Url.probeAddress target g.path) with
    | .error _ => rt.runGroups target found rest
    | .ok () => rt.runGroups target (← rt.runTechnologies found g.technologies) rest

/-- Add to what was found on a target what the scripts of a store find there. -/
def augment (rt : ScriptRuntime m) (target : String) (s : Store) (found : Detections) : m Detections :=
  rt.runGroups target found s.scriptGroups

end ScriptRuntime
end SiteProbe
