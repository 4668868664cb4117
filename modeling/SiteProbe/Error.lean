import SiteProbe.Json.Draft
import SiteProbe.Text.Cut
import SiteProbe.Unicode.Case
import SiteProbe.Url.Basic

/-!
# Errors

What can go wrong between the rules and the result, each cause with its words (`Error.message`). An error is fatal if
it says that the whole host cannot be reached (`Error.isFatal`), which retrying does not change.
-/

namespace SiteProbe

/-- Why a detection, or what it needs, did not come about. -/
inductive Error where
  | ruleLoad (text : String)
  | ruleParse (text : String)
  | notInitialized
  | augmentation (text : String)
  | http (text : String)
  | timeout (text : String)
  | unreachable (text : String)
  | exhausted (retries : UInt32) (last : Error)
  | json (error : Json.Error)
  | io (text : String)
  | url (error : Url.Error)
  | invalidInput (text : String)
  deriving Repr, Inhabited

/-- How an exchange with a server failed: whether its time ran out, and what went wrong from the outside in. -/
structure Failure where
  timedOut : Bool
  chain : String
  deriving DecidableEq, Repr

namespace Error

/-- The words of an error. -/
def message : Error → String
  | .ruleLoad t => "Failed to load rules: " ++ t
  | .ruleParse t => "Failed to parse rules: " ++ t
  | .notInitialized => "Detector not initialized"
  | .augmentation t => "Augmentation failed: " ++ t
  | .http t => "Network request failed: " ++ t
  | .timeout t => "Request timed out: " ++ t
  | .unreachable t => "Host unreachable: " ++ t
  | .exhausted n e => "Failed after " ++ toString n ++ " retries: " ++ e.message
  | .json e => "JSON parse failed: " ++ e.message
  | .io t => "IO operation failed: " ++ t
  | .url e => "URL parse failed: " ++ e.message
  | .invalidInput t => "Invalid input: " ++ t

/-- Whether an error says that the host cannot be reached at all. -/
def isFatal : Error → Bool
  | .unreachable _ => true
  | .exhausted _ e => e.isFatal
  | _ => false

/-- The texts that tell of a host that cannot be found or a network that cannot be reached. -/
def fatalMarkers : List String :=
  ["no such host", "dns error", "failed to lookup address", "name or service not known",
    "nodename nor servname provided", "network is unreachable", "network unreachable"]

/-- Whether a text tells of a host that cannot be reached, in whatever letter case. -/
def tellsOfUnreachable (text : String) : Bool :=
  fatalMarkers.any fun marker => Text.occursIn marker.toList (Unicode.Case.lower text).toList

/-- The error of a failed exchange. -/
def ofFailure (f : Failure) : Error :=
  if f.timedOut then .timeout f.chain
  else if tellsOfUnreachable f.chain then .unreachable f.chain
  else .http f.chain

end Error
end SiteProbe
