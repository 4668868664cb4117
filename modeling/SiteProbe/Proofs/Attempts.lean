import SiteProbe.Proofs.Log

/-!
# Attempts

An operation that is retried makes attempts in a row. All of them fail but the last one, which succeeds or leaves no
retry (`Attempts`), and the last one decides what comes of the retrying (`runs_retry`):

- there is at least one attempt and at most one more than there are retries (`Attempts.length_pos`,
  `Attempts.length_le`);
- every attempt but the last one failed (`Attempts.failed_of_mem_dropLast`), and if the last one failed too, all
  retries were made (`Attempts.length_eq_of_failed`).
-/

namespace SiteProbe

variable {ε σ α : Type}

/-- An attempt at an operation: what it noted, and how it ended. -/
structure Attempt (ε α : Type) where
  notes : List ε
  result : Except Error α

/-- Attempts with a number of retries left: all fail but the last one, which succeeds or leaves no retry. -/
inductive Attempts : Nat → List (Attempt ε α) → Prop
  | success {left : Nat} (t : List ε) (a : α) : Attempts left [⟨t, .ok a⟩]
  | exhausted (t : List ε) (e : Error) : Attempts 0 [⟨t, .error e⟩]
  | retried {left : Nat} (t : List ε) (e : Error) {rest : List (Attempt ε α)} :
      Attempts left rest → Attempts (left + 1) (⟨t, .error e⟩ :: rest)

namespace Attempts

variable {left : Nat} {as : List (Attempt ε α)}

theorem ne_nil (h : Attempts left as) : as ≠ [] := by
  cases h <;> simp

theorem length_pos (h : Attempts left as) : 1 ≤ as.length := List.length_pos_iff.mpr h.ne_nil

/-- There is at most one attempt more than there are retries. -/
theorem length_le (h : Attempts left as) : as.length ≤ left + 1 := by
  induction h with
  | success => simp
  | exhausted => simp
  | retried _ _ _ ih => simpa using ih

/-- Only the last attempt can succeed. -/
theorem failed_of_mem_dropLast (h : Attempts left as) : ∀ a ∈ as.dropLast, ∃ e, a.result = .error e := by
  induction h with
  | success => simp
  | exhausted => simp
  | retried t e hrest ih =>
    rw [List.dropLast_cons_of_ne_nil hrest.ne_nil]
    intro a ha
    rcases List.mem_cons.mp ha with rfl | ha
    · exact ⟨e, rfl⟩
    · exact ih a ha

/-- If the last attempt fails, no retry is left. -/
theorem length_eq_of_failed (h : Attempts left as) :
    ∀ a ∈ as.getLast?, ∀ e, a.result = .error e → as.length = left + 1 := by
  induction h with
  | success t a =>
    intro b hb e he
    simp only [List.getLast?_singleton, Option.mem_some] at hb
    subst hb
    cases he
  | exhausted => simp
  | retried t e hrest ih =>
    intro a ha e' he
    rw [List.getLast?_cons_of_ne_nil hrest.ne_nil] at ha
    rw [List.length_cons, ih a ha e' he]

end Attempts

/-- What remains of the result of the last attempt. -/
def finalResult (retries : UInt32) : Except Error α → Except Error α
  | .ok a => .ok a
  | .error e => .error (.exhausted retries e)

theorem finalResult_eq_ok_iff {retries : UInt32} {r : Except Error α} {a : α} :
    finalResult retries r = .ok a ↔ r = .ok a := by
  cases r <;> simp [finalResult]

/-- Retrying makes no error fatal, and none harmless. -/
theorem fatal_finalResult {retries : UInt32} {r : Except Error α} :
    (∃ e, finalResult retries r = .error e ∧ e.isFatal) ↔ ∃ e, r = .error e ∧ e.isFatal := by
  cases r with
  | ok a => simp [finalResult]
  | error e => simp [finalResult, Error.isFatal]

section Runs

variable {policy : RetryPolicy} {operation : UInt32 → Logged ε σ (Except Error α)}

/-! ## One attempt -/

section Step

variable {pause : Duration → Logged ε σ Unit} {left : Nat} {n : UInt32} {s s₁ s₂ s₃ : σ} {t t₁ t₂ : List ε} {a : α}
  {e : Error} {result : Except Error α}

/-- An attempt that succeeds is the last one. -/
theorem Runs.retryFrom_ok (hop : Runs (operation n) s t (.ok a) s₁) :
    Runs (retryFrom policy pause operation left n) s t (.ok a) s₁ := by
  rw [retryFrom]
  exact hop.bind_nil (Runs.pure _ _)

/-- So is one that fails with no retry left. -/
theorem Runs.retryFrom_exhausted (hop : Runs (operation n) s t (.error e) s₁) :
    Runs (retryFrom policy pause operation 0 n) s t (.error (.exhausted policy.maxRetries e)) s₁ := by
  rw [retryFrom]
  exact hop.bind_nil (Runs.pure _ _)

/-- Behind any other one that fails there is a pause, and the next one. -/
theorem Runs.retryFrom_again (hop : Runs (operation n) s t (.error e) s₁)
    (hpause : Runs (pause (policy.backoff n)) s₁ t₁ () s₂)
    (hrest : Runs (retryFrom policy pause operation left (n + 1)) s₂ t₂ result s₃) :
    Runs (retryFrom policy pause operation (left + 1) n) s (t ++ (t₁ ++ t₂)) result s₃ := by
  rw [retryFrom]
  exact hop.bind (hpause.bind hrest)

end Step

/-! ## All attempts -/

variable {pause : Duration → StateM σ Unit} {P : Attempt ε α → Prop}

/-- Retrying runs an operation in attempts. What holds of every run of the operation holds of all of them. -/
theorem runs_retryFrom (hop : ∀ n s, ∃ t r s', Runs (operation n) s t r s' ∧ P ⟨t, r⟩) :
    ∀ (left : Nat) (n : UInt32) (s : σ), ∃ as last s',
      Runs (retryFrom policy (fun d => silently (pause d)) operation left n) s (as.flatMap (·.notes))
          (finalResult policy.maxRetries last.result) s' ∧
        Attempts left as ∧ as.getLast? = some last ∧ ∀ a ∈ as, P a := by
  intro left
  induction left with
  | zero =>
    intro n s
    obtain ⟨t, r, s', hrun, hP⟩ := hop n s
    refine ⟨[⟨t, r⟩], ⟨t, r⟩, s', ?_, ?_, rfl, by simpa using hP⟩
    · rw [List.flatMap_singleton]
      cases r with
      | ok a => exact hrun.retryFrom_ok
      | error e => exact hrun.retryFrom_exhausted
    · cases r with
      | ok a => exact .success t a
      | error e => exact .exhausted t e
  | succ left ih =>
    intro n s
    obtain ⟨t, r, s', hrun, hP⟩ := hop n s
    cases r with
    | ok a =>
      refine ⟨[⟨t, .ok a⟩], ⟨t, .ok a⟩, s', ?_, .success t a, rfl, by simpa using hP⟩
      rw [List.flatMap_singleton]
      exact hrun.retryFrom_ok
    | error e =>
      have hpause := Runs.silently (ε := ε) (pause (policy.backoff n)) s'
      obtain ⟨as, last, s'', hrest, has, hlast, hall⟩ := ih (n + 1) ((pause (policy.backoff n)).run s').2
      refine ⟨⟨t, .error e⟩ :: as, last, s'', ?_, .retried t e has, ?_, ?_⟩
      · rw [List.flatMap_cons]
        exact hrun.retryFrom_again hpause hrest
      · rw [List.getLast?_cons_of_ne_nil has.ne_nil, hlast]
      · intro a ha
        rcases List.mem_cons.mp ha with rfl | ha
        · exact hP
        · exact hall a ha

/-- Retrying makes attempts as the policy says, and its result is that of the last one. -/
theorem runs_retry (policy : RetryPolicy) (pause : Duration → StateM σ Unit)
    (hop : ∀ n s, ∃ t r s', Runs (operation n) s t r s' ∧ P ⟨t, r⟩) (s : σ) :
    ∃ as last s', Runs (retry policy (fun d => silently (pause d)) operation) s (as.flatMap (·.notes))
        (finalResult policy.maxRetries last.result) s' ∧
      Attempts policy.maxRetries.toNat as ∧ as.getLast? = some last ∧ ∀ a ∈ as, P a :=
  runs_retryFrom hop policy.maxRetries.toNat 0 s

end Runs
end SiteProbe
