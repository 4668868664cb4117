import SiteProbe.Proofs.Attempts

/-!
# The course of retrying

The attempts of an operation that is retried, and the pauses between them, are events in a log (`RetryEvent`). The
operation may behave in any way, so its outcomes are any sequence (`outcomeAt`), and they decide which attempt is the
last one (`IsLast`). The events up to there have a fixed course: the attempts are numbered in order, and behind each one
but the last is the pause of its number (`course`). What comes of it is told by the last attempt (`retry_course`).
-/

namespace SiteProbe

variable {σ α : Type}

/-- An event of retrying: an attempt was made, and had an outcome, or a pause was. -/
inductive RetryEvent (α : Type) where
  | attempt (number : Nat) (outcome : Except Error α)
  | pause (length : Duration)

namespace RetryEvent

/-- The number of an attempt. -/
def number? : RetryEvent α → Option Nat
  | .attempt number _ => some number
  | .pause _ => none

/-- The length of a pause. -/
def length? : RetryEvent α → Option Duration
  | .attempt _ _ => none
  | .pause length => some length

end RetryEvent

/-- An operation whose attempts are noted. -/
def notingAttempts (operation : UInt32 → StateM σ (Except Error α)) (n : UInt32) :
    Logged (RetryEvent α) σ (Except Error α) :=
  noting (RetryEvent.attempt n.toNat) (operation n)

/-- Pauses that are noted. -/
def notingPauses (pause : Duration → StateM σ Unit) (d : Duration) : Logged (RetryEvent α) σ Unit :=
  noting (fun _ => RetryEvent.pause d) (pause d)

/-! ## Last attempts -/

/-- Of a sequence of outcomes, the attempt with this number is the last one: the first that succeeds, or the one behind
which no retry is left. -/
structure IsLast (outcome : Nat → Except Error α) (retries last : Nat) : Prop where
  le : last ≤ retries
  failed : ∀ i < last, ∃ e, outcome i = .error e
  ended : (∃ e, outcome last = .error e) → last = retries

namespace IsLast

variable {outcome : Nat → Except Error α} {retries last : Nat} {a : α} {e : Error}

theorem exhausted (outcome : Nat → Except Error α) : IsLast outcome 0 0 := ⟨Nat.le_refl 0, nofun, fun _ => rfl⟩

theorem success (h : outcome 0 = .ok a) (retries : Nat) : IsLast outcome retries 0 := by
  refine ⟨Nat.zero_le retries, nofun, ?_⟩
  rintro ⟨e, he⟩
  cases h.symm.trans he

theorem retried (h : outcome 0 = .error e) (hrest : IsLast (fun i => outcome (i + 1)) retries last) :
    IsLast outcome (retries + 1) (last + 1) := by
  refine ⟨Nat.succ_le_succ hrest.le, fun i hi => ?_, fun hlast => congrArg (· + 1) (hrest.ended hlast)⟩
  cases i with
  | zero => exact ⟨e, h⟩
  | succ i => exact hrest.failed i (Nat.lt_of_succ_lt_succ hi)

/-- A first success ends the attempts, unless the retries do before. -/
theorem eq_min (h : IsLast outcome retries last) {k : Nat} (hk : outcome k = .ok a)
    (hbefore : ∀ i < k, ∃ e, outcome i = .error e) : last = min k retries := by
  have hle : last ≤ k := by
    refine Nat.le_of_not_lt fun hlt => ?_
    obtain ⟨e, he⟩ := h.failed k hlt
    cases hk.symm.trans he
  have hretries := h.le
  rcases Nat.lt_or_eq_of_le hle with hlt | rfl
  · have hend := h.ended (hbefore last hlt)
    omega
  · omega

end IsLast

/-! ## Courses -/

section Course

variable (policy : RetryPolicy) (outcome : Nat → Except Error α)

/-- An attempt and more of them, each behind the pause of the one before. -/
def course (i : Nat) : Nat → List (RetryEvent α)
  | 0 => [.attempt i (outcome i)]
  | more + 1 => .attempt i (outcome i) :: .pause (policy.backoff (.ofNat i)) :: course (i + 1) more

/-- The attempts of a course have the numbers from the first one on. -/
theorem number?_course (i more : Nat) :
    (course policy outcome i more).filterMap RetryEvent.number? = List.range' i (more + 1) := by
  induction more generalizing i with
  | zero => rfl
  | succ more ih =>
    rw [course, List.range'_succ, ← ih (i + 1)]
    rfl

/-- Each attempt but the last one has the pause of its number. -/
theorem length?_course (i more : Nat) :
    (course policy outcome i more).filterMap RetryEvent.length? =
      (List.range' i more).map fun j => policy.backoff (.ofNat j) := by
  induction more generalizing i with
  | zero => rfl
  | succ more ih =>
    rw [course, List.range'_succ, List.map_cons, ← ih (i + 1)]
    rfl

end Course

/-! ## Retrying runs a course -/

section Runs

variable (policy : RetryPolicy) (pause : Duration → StateM σ Unit) (operation : UInt32 → StateM σ (Except Error α))
  (s : σ)

/-- The state that the attempt of a number finds if it is made. -/
def stateAt : Nat → σ
  | 0 => s
  | i + 1 =>
    let tried := ((operation (.ofNat i)).run (stateAt i)).2
    ((pause (policy.backoff (.ofNat i))).run tried).2

/-- The outcome that the attempt of a number has if it is made. -/
def outcomeAt (i : Nat) : Except Error α :=
  ((operation (.ofNat i)).run (stateAt policy pause operation s i)).1

/-- An attempt is noted with its number, and the pause behind it leads to the state that the next one finds. -/
theorem runs_attempt {i : Nat} (hi : i < UInt32.size) :
    ∃ tried,
      Runs (notingAttempts operation (.ofNat i)) (stateAt policy pause operation s i)
        [.attempt i (outcomeAt policy pause operation s i)] (outcomeAt policy pause operation s i) tried ∧
      Runs (notingPauses (α := α) pause (policy.backoff (.ofNat i))) tried
        [.pause (policy.backoff (.ofNat i))] () (stateAt policy pause operation s (i + 1)) := by
  have hattempt : Runs (notingAttempts operation (.ofNat i)) (stateAt policy pause operation s i)
      [.attempt (UInt32.ofNat i).toNat (outcomeAt policy pause operation s i)] (outcomeAt policy pause operation s i)
      _ := Runs.noting _ _ _
  rw [UInt32.toNat_ofNat_of_lt' hi] at hattempt
  exact ⟨_, hattempt, Runs.noting _ _ _⟩

/-- With retries left, retrying goes on from an attempt to the last one. The attempts have their numbers, as the retries
fit a word. -/
theorem runs_retryFrom_course (left i : Nat) (hi : i + left < UInt32.size) :
    ∃ more s', IsLast (fun j => outcomeAt policy pause operation s (i + j)) left more ∧
      Runs (retryFrom policy (notingPauses pause) (notingAttempts operation) left (.ofNat i))
        (stateAt policy pause operation s i) (course policy (outcomeAt policy pause operation s) i more)
        (finalResult policy.maxRetries (outcomeAt policy pause operation s (i + more))) s' := by
  induction left generalizing i with
  | zero =>
    obtain ⟨tried, hattempt, -⟩ := runs_attempt policy pause operation s hi
    refine ⟨0, tried, .exhausted _, ?_⟩
    rw [course, Nat.add_zero]
    cases hout : outcomeAt policy pause operation s i with
    | ok a => exact (hout ▸ hattempt).retryFrom_ok
    | error e => exact (hout ▸ hattempt).retryFrom_exhausted
  | succ left ih =>
    obtain ⟨tried, hattempt, hpause⟩ := runs_attempt policy pause operation s (Nat.lt_of_add_right_lt hi)
    cases hout : outcomeAt policy pause operation s i with
    | ok a =>
      refine ⟨0, tried, .success hout _, ?_⟩
      rw [course, Nat.add_zero i, hout]
      exact (hout ▸ hattempt).retryFrom_ok
    | error e =>
      obtain ⟨more, s', hlast, hrest⟩ := ih (i + 1) (by omega)
      have hnext (j : Nat) : i + 1 + j = i + (j + 1) := by omega
      simp only [hnext] at hlast hrest
      refine ⟨more + 1, s', .retried hout hlast, ?_⟩
      rw [course, hout]
      rw [UInt32.ofNat_add] at hrest
      exact (hout ▸ hattempt).retryFrom_again hpause hrest

end Runs

/-- However many retries there are, as long as their number fits a word, and whatever the outcomes: the attempts are
numbered from zero on, and each one but the last has the pause of its number behind it. If the first success is the one
with number `k`, there are attempts up to it, but not more than one for each retry and one before, and if it is among
them, its value is the result. If there is none among them, the result holds the number of retries and the error of the
last attempt. The result is fatal if and only if the last attempt is. -/
theorem retry_course (policy : RetryPolicy) (pause : Duration → StateM σ Unit)
    (operation : UInt32 → StateM σ (Except Error α)) (s : σ) :
    let retries := policy.maxRetries.toNat
    let outcome := outcomeAt policy pause operation s
    ∃ last result s',
      ((retry policy (notingPauses pause) (notingAttempts operation)).run []).run s =
        ((result, course policy outcome 0 last), s') ∧
      (course policy outcome 0 last).filterMap RetryEvent.number? = List.range (last + 1) ∧
      (course policy outcome 0 last).filterMap RetryEvent.length? =
        (List.range last).map (fun i => policy.backoff (.ofNat i)) ∧
      (∀ k a, outcome k = .ok a → (∀ i < k, ∃ e, outcome i = .error e) →
        last + 1 = min (k + 1) (retries + 1) ∧ (k ≤ retries → result = .ok a)) ∧
      ((∀ i ≤ retries, ∃ e, outcome i = .error e) →
        last = retries ∧ ∃ e, outcome last = .error e ∧ result = .error (.exhausted policy.maxRetries e)) ∧
      ((∃ e, result = .error e ∧ e.isFatal) ↔ ∃ e, outcome last = .error e ∧ e.isFatal) := by
  intro retries outcome
  have hword : 0 + retries < UInt32.size := by
    rw [Nat.zero_add]
    exact policy.maxRetries.toNat_lt
  obtain ⟨last, s', hlast, hrun⟩ := runs_retryFrom_course policy pause operation s retries 0 hword
  simp only [Nat.zero_add] at hlast hrun
  refine ⟨last, finalResult policy.maxRetries (outcome last), s', hrun.run_nil, ?_, ?_, ?_, ?_, fatal_finalResult⟩
  · rw [number?_course, List.range_eq_range']
  · rw [length?_course, List.range_eq_range']
  · intro k a hk hbefore
    have hmin : last = min k retries := hlast.eq_min hk hbefore
    refine ⟨by omega, fun hle => ?_⟩
    obtain rfl : last = k := hmin.trans (Nat.min_eq_left hle)
    rw [hk]
    rfl
  · intro hall
    obtain ⟨e, he⟩ := hall last hlast.le
    refine ⟨hlast.ended ⟨e, he⟩, e, he, ?_⟩
    rw [he]
    rfl

/-- An operation that runs out of time, then finds no host, and then would succeed. -/
def thirdTime (n : UInt32) : StateM Unit (Except Error Nat) :=
  return if n = 0 then .error (.timeout "slow") else if n = 1 then .error (.unreachable "gone") else .ok 3

/-- One retry is not enough for it. -/
theorem retry_course_standard :
    ∃ result, ((retry .standard (notingPauses fun _ => return) (notingAttempts thirdTime)).run []).run () =
      ((result, [.attempt 0 (.error (.timeout "slow")), .pause (.ofSeconds 1),
        .attempt 1 (.error (.unreachable "gone"))]), ()) ∧
      result = .error (.exhausted 1 (.unreachable "gone")) ∧ ∃ e, result = .error e ∧ e.isFatal := by
  obtain ⟨last, result, s', hrun, -, -, -, hfailed, hfatal⟩ :=
    retry_course .standard (fun _ => return) thirdTime ()
  have hall : ∀ i ≤ 1, ∃ e, outcomeAt .standard (fun _ => return) thirdTime () i = .error e := by
    intro i hi
    obtain rfl | rfl : i = 0 ∨ i = 1 := by omega
    · exact ⟨_, rfl⟩
    · exact ⟨_, rfl⟩
  obtain ⟨rfl, e, he, hresult⟩ := hfailed hall
  cases he
  exact ⟨result, hrun, hresult, hfatal.mpr ⟨_, rfl, rfl⟩⟩

end SiteProbe
