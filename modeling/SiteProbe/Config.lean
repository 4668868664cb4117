import SiteProbe.Duration

/-!
# Configuration

What a detector can be told, with what holds if it is told nothing. The pause before a retry doubles from one retry to
the next (`RetryPolicy.backoff`).
-/

namespace SiteProbe

/-- How often a failed fetch is retried, and how long the first pause is. -/
structure RetryPolicy where
  maxRetries : UInt32
  initialBackoff : Duration
  deriving DecidableEq, Repr

namespace RetryPolicy

/-- One retry after a second. -/
def standard : RetryPolicy := ⟨1, .ofSeconds 1⟩

/-- The power of two for an attempt, at most the greatest word. -/
def factor (attempt : UInt32) : UInt32 := if attempt < 32 then 1 <<< attempt else 4294967295

/-- The pause after an attempt, the first of which has number zero. -/
def backoff (p : RetryPolicy) (attempt : UInt32) : Duration := p.initialBackoff.times (factor attempt)

end RetryPolicy

/-- The settings of a detector. -/
structure Config where
  /-- A rule file, or a folder of rule files. -/
  fingerprints : String
  requestTimeout : Duration
  /-- Whether certificates go unchecked. -/
  insecure : Bool
  retry : RetryPolicy
  maxRedirects : Nat
  userAgent : String
  augmentTimeout : Duration
  deriving DecidableEq, Repr

/-- The settings that hold if nothing is said. -/
def Config.standard : Config where
  fingerprints := "./data/fingerprints"
  requestTimeout := .ofSeconds 10
  insecure := false
  retry := .standard
  maxRedirects := 3
  userAgent := "techdetect/0.1.0"
  augmentTimeout := .ofSeconds 30

end SiteProbe
