import SiteProbe.Detector

/-!
# Sessions

A session has one detector from the first time on that one can be made; later configurations change nothing
(`Session.init`). Until then it detects nothing.
-/

namespace SiteProbe

/-- The detector of a session, if it has one already. -/
structure Session where
  detector : Option Detector

namespace Session

/-- A session that has no detector yet. -/
def start : Session := ⟨none⟩

/-- Make a detector unless there is one. -/
def init (s : Session) (source : String → Source) (config : Config) : Except Error Unit × Session :=
  match s.detector with
  | some _ => (.ok (), s)
  | none =>
    match Detector.load source config with
    | .ok d => (.ok (), ⟨some d⟩)
    | .error e => (.error e, s)

/-- The detector of a session. -/
def get (s : Session) : Except Error Detector :=
  match s.detector with
  | some d => .ok d
  | none => .error .notInitialized

variable {m : Type → Type} [Monad m]

/-- Detect with the detector of a session. -/
def detect (s : Session) (web : Web m) (pause : Duration → m Unit) (augmenter : Option (Augmenter m)) (url : String) :
    m (Except Error Findings) :=
  match s.get with
  | .error e => return .error e
  | .ok d => d.detect (d.world web pause) augmenter url

end Session
end SiteProbe
