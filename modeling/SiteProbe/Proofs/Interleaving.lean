import Mathlib.Algebra.GroupWithZero.Nat
import Mathlib.Logic.Relation
import SiteProbe.Program
import SiteProbe.Proofs.Conversations

/-!
# Interleaved conversations

The conversations of a batch can go on in any order: a conversation begins where the limit leaves room, any of those
under way gets its next answer, and the oldest hands over its result when it is at its end (`Batch.Step`). Whatever the
order, a batch comes to the results that its jobs have one by one (`Batch.comesTo`). Two things carry this:

- no step changes what would come of leading all that is left to its end in order (`Batch.finish_step`);
- every step lowers by one what is still to do (`Batch.todo_step`), so that all orders end, after equally many steps.

The turns that a schedule takes are such steps (`Batch.steps_turn`), and so a batch that is run to a schedule has these
results too (`Batch.run_eq`). The scans of a program are a batch (`Program.scans_interleave`).
-/

namespace SiteProbe

open Relation (ReflTransGen)

/-- How many answers a conversation takes to come to its end. -/
def Conversation.length {α : Type} (answer : Url → Message → Except Failure Reply) : Conversation α → Nat
  | .done _ => 0
  | .ask url message next => (next (answer url message)).length answer + 1

namespace Batch

variable {α β : Type}

/-- A step of a batch: the next job begins, a conversation gets an answer, or the oldest hands over its result. -/
inductive Step (limit : Nat) (job : α → Conversation β) (answer : Url → Message → Except Failure Reply) :
    Batch α β → Batch α β → Prop where
  | begin {a : α} {waiting running results} : running.length < limit →
    Step limit job answer ⟨a :: waiting, running, results⟩ ⟨waiting, running ++ [job a], results⟩
  | proceed {waiting before url message next after results} :
    Step limit job answer ⟨waiting, before ++ .ask url message next :: after, results⟩
      ⟨waiting, before ++ next (answer url message) :: after, results⟩
  | collect {waiting r running results} :
    Step limit job answer ⟨waiting, .done r :: running, results⟩ ⟨waiting, running, results ++ [r]⟩

variable {limit : Nat} {job : α → Conversation β} {answer : Url → Message → Except Failure Reply} {b b' : Batch α β}

/-! ## What a step preserves, and what it uses up -/

theorem finish_step (h : Step limit job answer b b') : b'.finish job answer = b.finish job answer := by
  cases h with
  | begin hroom => simp [finish]
  | proceed => simp [finish, Conversation.finish]
  | collect => simp [finish, Conversation.finish]

theorem finish_steps (h : ReflTransGen (Step limit job answer) b b') : b'.finish job answer = b.finish job answer := by
  induction h with
  | refl => rfl
  | tail _ hstep ih => exact (finish_step hstep).trans ih

theorem length_running_step (h : Step limit job answer b b') (hb : b.running.length ≤ limit) :
    b'.running.length ≤ limit := by
  cases h with
  | begin hroom => simpa using Nat.succ_le_of_lt hroom
  | proceed => simpa using hb
  | collect => exact Nat.le_of_succ_le hb

theorem length_running_steps (h : ReflTransGen (Step limit job answer) b b') (hb : b.running.length ≤ limit) :
    b'.running.length ≤ limit := by
  induction h with
  | refl => exact hb
  | tail _ hstep ih => exact length_running_step hstep ih

/-- The steps that are still to do: a job that waits has to begin, a conversation to get its answers, and each result is
to be handed over. -/
def todo (job : α → Conversation β) (answer : Url → Message → Except Failure Reply) (b : Batch α β) : Nat :=
  (b.waiting.map fun a => (job a).length answer + 2).sum + (b.running.map fun c => c.length answer + 1).sum

theorem todo_step (h : Step limit job answer b b') : b.todo job answer = b'.todo job answer + 1 := by
  cases h with
  | begin hroom => simp [todo]; omega
  | proceed => simp [todo, Conversation.length]; omega
  | collect => simp [todo, Conversation.length]; omega

variable (limit job answer) in
theorem wellFounded_step : WellFounded (Function.swap (Step limit job answer)) := by
  refine Subrelation.wf ?_ (measure (todo job answer)).wf
  intro b' b h
  have htodo := todo_step h
  show b'.todo job answer < b.todo job answer
  omega

/-! ## Progress -/

/-- As long as something is left, and the limit is not naught, something can be done. -/
theorem exists_step (hlimit : 0 < limit) {waiting : List α} {running : List (Conversation β)} (results : List β)
    (h : ¬ (waiting = [] ∧ running = [])) : ∃ b', Step limit job answer ⟨waiting, running, results⟩ b' := by
  cases running with
  | nil =>
    cases waiting with
    | nil => exact absurd ⟨rfl, rfl⟩ h
    | cons a waiting => exact ⟨_, .begin hlimit⟩
  | cons c running =>
    cases c with
    | done r => exact ⟨_, .collect⟩
    | ask url message next =>
      have hstep : Step limit job answer ⟨waiting, [] ++ .ask url message next :: running, results⟩ _ := .proceed
      exact ⟨_, hstep⟩

theorem stuck_iff (hlimit : 0 < limit) :
    (∀ b', ¬ Step limit job answer b b') ↔ b = ⟨[], [], b.finish job answer⟩ := by
  constructor
  · intro h
    obtain ⟨waiting, running, results⟩ := b
    obtain ⟨rfl, rfl⟩ : waiting = [] ∧ running = [] := by
      refine Classical.byContradiction fun hleft => ?_
      obtain ⟨b', hstep⟩ := exists_step hlimit results hleft
      exact h b' hstep
    simp [finish]
  · intro h b' hstep
    have htodo := todo_step hstep
    rw [h] at htodo
    simp [todo] at htodo

/-- In whatever order its conversations go on, a batch of jobs comes to these reports: it hands them over in order, keeps
to the limit, and does not stop before the last. -/
structure ComesTo (limit : Nat) (job : α → Conversation β) (answer : Url → Message → Except Failure Reply)
    (jobs : List α) (reports : List β) : Prop where
  ends : WellFounded (Function.swap (Step limit job answer))
  ordered : ∀ b, ReflTransGen (Step limit job answer) ⟨jobs, [], []⟩ b → b.results <+: reports
  limited : ∀ b, ReflTransGen (Step limit job answer) ⟨jobs, [], []⟩ b → b.running.length ≤ limit
  complete : ∀ b, ReflTransGen (Step limit job answer) ⟨jobs, [], []⟩ b →
    ((∀ b', ¬ Step limit job answer b b') ↔ b = ⟨[], [], reports⟩)

theorem comesTo (hlimit : 0 < limit) (job : α → Conversation β) (answer : Url → Message → Except Failure Reply)
    (jobs : List α) : ComesTo limit job answer jobs (jobs.map fun a => (job a).finish answer) := by
  -- what is handed over at any moment is the beginning of what would come of leading all that is left to its end
  have hfinish {b} (h : ReflTransGen (Step limit job answer) ⟨jobs, [], []⟩ b) :
      b.finish job answer = jobs.map fun a => (job a).finish answer := finish_steps h
  refine ⟨wellFounded_step limit job answer, fun b h => ?_, fun b h => ?_, fun b h => ?_⟩
  · rw [← hfinish h, finish, List.append_assoc]
    exact List.prefix_append _ _
  · exact length_running_steps h (Nat.zero_le limit)
  · rw [stuck_iff hlimit, hfinish h]

/-! ## Schedules -/

variable (limit job answer)

theorem steps_fill (b : Batch α β) : ReflTransGen (Step limit job answer) b (b.fill limit job) := by
  obtain ⟨waiting, running, results⟩ := b
  induction waiting generalizing running with
  | nil => simp [fill, ReflTransGen.refl]
  | cons a rest ih =>
    by_cases hroom : running.length < limit
    · -- with room left, filling up is to begin the next job and to fill up again
      have hmore : fill limit job ⟨a :: rest, running, results⟩ =
          fill limit job ⟨rest, running ++ [job a], results⟩ := by
        obtain ⟨room, hroom⟩ : ∃ room, limit - running.length = room + 1 := ⟨limit - running.length - 1, by omega⟩
        have hless : limit - (running.length + 1) = room := by omega
        simp [fill, hroom, hless]
      rw [hmore]
      exact .head (.begin hroom) (ih _)
    · have hroom : limit - running.length = 0 := by omega
      simp [fill, hroom, ReflTransGen.refl]

theorem steps_proceed (place : Nat) (b : Batch α β) :
    ReflTransGen (Step limit job answer) b (b.proceed answer place) := by
  obtain ⟨waiting, running, results⟩ := b
  unfold proceed
  by_cases hplace : place < running.length
  · obtain ⟨before, c, after, rfl, -, hmodify⟩ := List.exists_of_modify (·.proceed answer) hplace
    simp only [hmodify]
    cases c with
    | done r => exact .refl
    | ask url message next => exact .single .proceed
  · simp only [List.modify_eq_self (Nat.le_of_not_lt hplace)]
    exact .refl

theorem steps_collect (b : Batch α β) : ReflTransGen (Step limit job answer) b b.collect := by
  obtain ⟨waiting, running, results⟩ := b
  cases running with
  | nil => exact .refl
  | cons c rest =>
    cases c with
    | done r => exact .single .collect
    | ask url message next => exact .refl

theorem steps_turn (b : Batch α β) (place : Nat) :
    ReflTransGen (Step limit job answer) b (b.turn limit job answer place) :=
  ((steps_fill limit job answer b).trans (steps_proceed limit job answer place _)).trans
    (steps_collect limit job answer _)

theorem steps_turns (schedule : List Nat) (b : Batch α β) :
    ReflTransGen (Step limit job answer) b (schedule.foldl (turn limit job answer) b) := by
  induction schedule generalizing b with
  | nil => exact .refl
  | cons place rest ih => exact (steps_turn limit job answer b place).trans (ih _)

/-- No schedule and no limit changes the results. -/
theorem run_eq (schedule : List Nat) (jobs : List α) :
    run limit job answer schedule jobs = jobs.map fun a => (job a).finish answer :=
  finish_steps (steps_turns limit job answer schedule ⟨jobs, [], []⟩)

end Batch
end SiteProbe
