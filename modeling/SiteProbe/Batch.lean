import SiteProbe.Conversation

/-!
# Batches

A batch leads a limited number of conversations at the same time, in the order of its jobs. Whoever finishes early waits
for those before: results come in the order of the jobs, whatever the order in which the conversations go on
(`Batch.run`).
-/

namespace SiteProbe

/-- Jobs that wait, conversations that are under way, the oldest first, and results that have come. -/
structure Batch (α β : Type) where
  waiting : List α
  running : List (Conversation β)
  results : List β

namespace Batch

variable {α β : Type}

/-- Begin conversations as long as fewer than the limit are under way. -/
def fill (limit : Nat) (job : α → Conversation β) (b : Batch α β) : Batch α β :=
  let room := limit - b.running.length
  { b with waiting := b.waiting.drop room, running := b.running ++ (b.waiting.take room).map job }

/-- Hand over the result of the oldest conversation if it is at its end. -/
def collect (b : Batch α β) : Batch α β :=
  match b.running with
  | .done r :: rest => { b with running := rest, results := b.results ++ [r] }
  | _ => b

/-- Let the conversation at a place go on by one answer. -/
def proceed (answer : Url → Message → Except Failure Reply) (place : Nat) (b : Batch α β) : Batch α β :=
  { b with running := b.running.modify place (·.proceed answer) }

/-- One turn: fill up, let one conversation go on and hand over what is ready. -/
def turn (limit : Nat) (job : α → Conversation β) (answer : Url → Message → Except Failure Reply) (b : Batch α β)
    (place : Nat) : Batch α β :=
  ((b.fill limit job).proceed answer place).collect

/-- Lead all that is left to its end in order. -/
def finish (job : α → Conversation β) (answer : Url → Message → Except Failure Reply) (b : Batch α β) : List β :=
  b.results ++ b.running.map (·.finish answer) ++ b.waiting.map fun a => (job a).finish answer

/-- Lead the conversations of all jobs, taking turns as a schedule says as long as it does. -/
def run (limit : Nat) (job : α → Conversation β) (answer : Url → Message → Except Failure Reply) (schedule : List Nat)
    (jobs : List α) : List β :=
  (schedule.foldl (turn limit job answer) ⟨jobs, [], []⟩).finish job answer

end Batch
end SiteProbe
