import SiteProbe.Detections
import SiteProbe.Retry
import SiteProbe.Rule.Group
import SiteProbe.Rule.Source
import SiteProbe.Web.Fetch

/-!
# Detectors

A detector asks for one page for each group of probes of its store, in order, and looks for the technologies of the
group on it (`Detector.probe`). A page that cannot be fetched makes its path a failed one; if the host cannot be reached
at all, the remaining paths fail unasked. Then an augmenter, which works on a copy, may add to what was found, and last
all that is implied is added (`Detector.detect`).
-/

namespace SiteProbe

/-- The technologies found on a target, and the paths of it whose pages could not be had. -/
structure Findings where
  technologies : Detections
  failedPaths : List String
  deriving Inhabited

namespace Findings

/-- Nothing found, and nothing failed. -/
def empty : Findings := ⟨.empty, []⟩

/-- Take up that a path failed, once. -/
def markFailed (f : Findings) (path : String) : Findings :=
  if f.failedPaths.contains path then f else { f with failedPaths := f.failedPaths ++ [path] }

/-- Describe the technologies that were found. -/
def describe (f : Findings) (s : Store) : List Technology := f.technologies.toList.map fun e => s.describe e.1 e.2

end Findings

/-- What a detection needs of the world: pages, and time that passes. -/
structure World (m : Type → Type) where
  fetch : String → Request → m (Except Error Page)
  pause : Duration → m Unit

/-- What an augmenter answers, and how long it takes for it; without a duration it never does. The time is the one that
the timer of the runtime sees: work that never gives way to the timer is not cut off, so that it takes no time here. -/
structure Augmentation where
  answer : Except Error Detections
  takes : Option Duration

/-- An augmenter gets a target, the store and a copy of what was found. -/
abbrev Augmenter (m : Type → Type) := String → Store → Detections → m Augmentation

namespace Probe

/-- Whether a probe matches a page, and the version then: the one of the query, or else of the version rules. -/
def outcome (p : Probe) (page : Page) : Outcome :=
  let o := p.detect.outcome page
  if o.matched && o.version = "" then .hit ((VersionRule.firstVersion? page p.versionRules).getD "") else o

end Probe

namespace Group

/-- The version that the first probe that matches gives, if one matches. -/
def firstMatch? (page : Page) (probes : List Probe) : Option String :=
  probes.findSome? fun p => if (p.outcome page).matched then some (p.outcome page).version else none

/-- What the technologies of a group show on their page. -/
def matchesOn (g : Group) (page : Page) : List (String × String) :=
  g.technologies.filterMap fun (name, probes) => (firstMatch? page probes).map fun version => (name, version)

end Group

/-- A store of rules, and how to go about detecting with them. -/
structure Detector where
  store : Store
  config : Config

namespace Detector

/-- A detector for a store, if it can introduce itself to servers. -/
def ofStore (s : Store) (config : Config) : Except Error Detector :=
  if Message.isFieldValue config.userAgent then .ok ⟨s, config⟩ else .error (.http "invalid user agent")

/-- A detector for the rules that the configuration names. -/
def load (source : String → Source) (config : Config) : Except Error Detector := do
  ofStore (← (source config.fingerprints).load config.fingerprints) config

variable {m : Type → Type} [Monad m]

/-- The world that a web makes for a detector. -/
def world (d : Detector) (web : Web m) (pause : Duration → m Unit) : World m :=
  ⟨SiteProbe.fetch web d.config.maxRedirects, pause⟩

/-- Fetch the page of a group. -/
def fetchGroup (d : Detector) (w : World m) (target : String) (g : Group) : m (Except Error Page) :=
  retry d.config.retry w.pause fun _ => w.fetch (Url.probeAddress target g.path) g.request

/-- Go through groups in order, until the host proves to be unreachable. -/
def probe (d : Detector) (w : World m) (target : String) (f : Findings) : List Group → m Findings
  | [] => return f
  | g :: rest => do
    match ← d.fetchGroup w target g with
    | .ok page =>
      d.probe w target { f with technologies := f.technologies.updateAll (g.matchesOn page) } rest
    | .error e =>
      if e.isFatal then return (g :: rest).foldl (fun f g => f.markFailed g.path) f
      else d.probe w target (f.markFailed g.path) rest

/-- Let an augmenter add to what was found. What fails, or takes too long as the timer sees it, adds nothing. -/
def augment (d : Detector) (w : World m) (augmenter : Augmenter m) (target : String) (found : Detections) :
    m Detections := do
  let a ← augmenter target d.store found
  match a.takes with
  | some t =>
    if t.le d.config.augmentTimeout then do
      w.pause t
      match a.answer with
      | .ok augmented => return found.merge augmented
      | .error _ => return found
    else do
      w.pause d.config.augmentTimeout
      return found
  | none => do
    w.pause d.config.augmentTimeout
    return found

/-- Detect what is behind a URL of the web, with an augmenter if there is one. -/
def detect (d : Detector) (w : World m) (augmenter : Option (Augmenter m)) (url : String) :
    m (Except Error Findings) :=
  match Url.parse url with
  | .error e => return .error (.url e)
  | .ok target =>
    if !target.isHttp then return .error (.invalidInput ("unsupported scheme in " ++ url))
    else do
      let f ← d.probe w url .empty d.store.groups
      let found ← match augmenter with
        | some augmenter => d.augment w augmenter url f.technologies
        | none => pure f.technologies
      return .ok { f with technologies := found.close d.store }

/-- Detect by the pages alone. -/
def detectHttp (d : Detector) (w : World m) (url : String) : m (Except Error Findings) := d.detect w none url

end Detector
end SiteProbe
