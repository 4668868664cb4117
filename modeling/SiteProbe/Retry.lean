import SiteProbe.Config
import SiteProbe.Error

/-!
# Retrying

An operation that fails is tried again after a pause until it succeeds or no retry is left (`retry`). The operation and
the pauses are actions of any monad, so that what happened, and when, can be read off its state.
-/

namespace SiteProbe

variable {m : Type → Type} [Monad m] {α : Type}

/-- Try an operation, the attempts numbered from `attempt` on, and retry it as often as is left. -/
def retryFrom (policy : RetryPolicy) (pause : Duration → m Unit) (operation : UInt32 → m (Except Error α)) :
    Nat → UInt32 → m (Except Error α)
  | left, attempt => do
    match ← operation attempt with
    | .ok a => return .ok a
    | .error e =>
      match left with
      | 0 => return .error (.exhausted policy.maxRetries e)
      | left + 1 => do
        pause (policy.backoff attempt)
        retryFrom policy pause operation left (attempt + 1)

/-- Try an operation and retry it as the policy says; what remains of a failure is the last error. -/
def retry (policy : RetryPolicy) (pause : Duration → m Unit) (operation : UInt32 → m (Except Error α)) :
    m (Except Error α) :=
  retryFrom policy pause operation policy.maxRetries.toNat 0

end SiteProbe
