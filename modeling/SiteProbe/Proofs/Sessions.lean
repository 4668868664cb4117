import SiteProbe.Proofs.Log
import SiteProbe.Session

/-!
# Sessions from their start

A session takes steps: it is asked to make a detector, and it is asked to detect (`Session.takeAll`). Until a first
detector can be made all is refused, and nobody is asked for anything; from then on that detector detects, and whoever
asks for one more is told that there is one (`Session.takeAll_start`).
-/

namespace SiteProbe.Session

/-- What a session is asked for: to make a detector of what the sources hold at that time, or to detect. -/
inductive Step (m : Type → Type) where
  | init (source : String → Source) (config : Config)
  | detect (augmenter : Option (Augmenter m)) (url : String)

/-- What a session answers. -/
inductive Answer where
  | initialized (result : Except Error Unit)
  | detected (result : Except Error Findings)

variable {m : Type → Type}

namespace Step

/-- The detector that a step makes if the session has none. -/
def detector? : Step m → Option Detector
  | .init source config => (Detector.load source config).toOption
  | .detect _ _ => none

/-- The answer to a step that finds no detector and makes none. -/
def refusal : Step m → Answer
  | .init source config => .initialized ((Detector.load source config).map fun _ => ())
  | .detect _ _ => .detected (.error .notInitialized)

theorem eq_init_of_detector? {step : Step m} {d : Detector} (h : step.detector? = some d) :
    ∃ source config, step = .init source config ∧ Detector.load source config = .ok d := by
  cases step with
  | init source config =>
    refine ⟨source, config, rfl, ?_⟩
    simp only [detector?] at h
    cases hload : Detector.load source config with
    | error e => rw [hload] at h; cases h
    | ok d' => rw [hload] at h; cases h; rfl
  | detect augmenter url => cases h

variable [Monad m]

/-- The answer to a step where there is a detector. -/
def answer (web : Web m) (pause : Duration → m Unit) (d : Detector) : Step m → m Answer
  | .init _ _ => return .initialized (.ok ())
  | .detect augmenter url => .detected <$> d.detect (d.world web pause) augmenter url

end Step

variable [Monad m] (web : Web m) (pause : Duration → m Unit)

/-- Take a step. -/
def take (s : Session) : Step m → m (Answer × Session)
  | .init source config => return (.initialized (s.init source config).1, (s.init source config).2)
  | .detect augmenter url => do return (.detected (← s.detect web pause augmenter url), s)

/-- Take steps one after the other. -/
def takeAll (s : Session) : List (Step m) → m (List Answer × Session)
  | [] => return ([], s)
  | step :: rest => do
    let (answer, s) ← s.take web pause step
    let (answers, s) ← s.takeAll rest
    return (answer :: answers, s)

/-! ## One step -/

/-- The first detector that can be made becomes the one of the session. -/
theorem take_start_init {source : String → Source} {config : Config} {d : Detector}
    (h : Detector.load source config = .ok d) :
    start.take web pause (.init source config) = pure (.initialized (.ok ()), ⟨some d⟩) := by
  simp [take, init, start, h]

variable [LawfulMonad m]

/-- Without a detector a step that makes none is refused, and the session is as before. -/
theorem take_start_of_none {step : Step m} (h : step.detector? = none) :
    start.take web pause step = pure (step.refusal, start) := by
  cases step with
  | init source config =>
    simp only [Step.detector?] at h
    cases hload : Detector.load source config with
    | error e => simp [take, init, start, Step.refusal, hload, Except.map]
    | ok d => rw [hload] at h; cases h
  | detect augmenter url => simp [take, Session.detect, get, start, Step.refusal]

/-- A detector stays, whatever is asked for. -/
theorem take_of_some (d : Detector) (step : Step m) :
    (⟨some d⟩ : Session).take web pause step = (·, ⟨some d⟩) <$> step.answer web pause d := by
  cases step with
  | init source config => simp [take, init, Step.answer]
  | detect augmenter url => simp [take, Session.detect, get, Step.answer]

/-! ## All steps -/

theorem takeAll_of_some (d : Detector) (steps : List (Step m)) :
    (⟨some d⟩ : Session).takeAll web pause steps = (·, ⟨some d⟩) <$> steps.mapM (Step.answer web pause d) := by
  induction steps with
  | nil => simp [takeAll]
  | cons step rest ih => simp [takeAll, take_of_some, ih]

/-- Either no step makes a detector: then all steps are refused, nothing is asked of the web, and the session is as at
its start. Or there is a first step that makes one: then the steps before it are refused in the same way, and all steps
after it are answered by this detector, whatever they would have made. -/
theorem takeAll_start (steps : List (Step m)) :
    (∀ step ∈ steps, step.detector? = none) ∧
      start.takeAll web pause steps = pure (steps.map Step.refusal, start) ∨
    ∃ before source config d after, steps = before ++ .init source config :: after ∧
      (∀ step ∈ before, step.detector? = none) ∧ Detector.load source config = .ok d ∧
      start.takeAll web pause steps = do
        let answers ← after.mapM (Step.answer web pause d)
        return (before.map Step.refusal ++ .initialized (.ok ()) :: answers, ⟨some d⟩) := by
  induction steps with
  | nil => exact .inl ⟨nofun, rfl⟩
  | cons step rest ih =>
    cases hstep : step.detector? with
    | some d =>
      obtain ⟨source, config, rfl, hload⟩ := Step.eq_init_of_detector? hstep
      refine .inr ⟨[], source, config, d, rest, rfl, nofun, hload, ?_⟩
      simp [takeAll, take_start_init web pause hload, takeAll_of_some]
    | none =>
      have htake := take_start_of_none web pause hstep
      rcases ih with ⟨hrest, hrun⟩ | ⟨before, source, config, d, after, rfl, hbefore, hload, hrun⟩
      · refine .inl ⟨List.forall_mem_cons.mpr ⟨hstep, hrest⟩, ?_⟩
        simp [takeAll, htake, hrun]
      · have hbefore : ∀ s ∈ step :: before, s.detector? = none := List.forall_mem_cons.mpr ⟨hstep, hbefore⟩
        refine .inr ⟨step :: before, source, config, d, after, rfl, hbefore, hload, ?_⟩
        simp [takeAll, htake, hrun]

/-- A web that answers everything in the same way. -/
def greeting : Web (StateM Unit) := fun _ _ => return .ok ⟨200, [], .ok (Utf8.encode "hello")⟩

/-- Steps of which the third is the first that makes a detector. -/
def sampleSteps : List (Step (Logged Exchange Unit)) :=
  let gone (_ : String) : Source := .missing "No such file or directory"
  let rules (_ : String) : Source := .file (.ok (Utf8.encode
    "\x7b\"apps\": \x7b\"Alpha\": \x7b\"paths\": [\x7b\"path\": \"/\", \"detect\": null\x7d]\x7d\x7d\x7d"))
  [.detect none "http://a.test/", .init gone .standard, .init rules .standard, .init gone .standard,
    .detect none "http://a.test/"]

/-- The first two steps are refused, and the last two are answered by the detector of the third. Only the last one asks
the web. -/
theorem takeAll_start_sampleSteps : ∃ before source config d after,
    sampleSteps = before ++ .init source config :: after ∧ before.length = 2 ∧ Detector.load source config = .ok d ∧
    start.takeAll greeting.noting (fun _ => return ()) sampleSteps = (do
      let answers ← after.mapM (Step.answer greeting.noting (fun _ => return ()) d)
      return (before.map Step.refusal ++ .initialized (.ok ()) :: answers, ⟨some d⟩)) ∧
    (((start.takeAll greeting.noting (fun _ => return ()) sampleSteps).run []).run ()).1.2.length = 1 := by
  have hmakes : sampleSteps.map (·.detector?.isSome) = [false, false, true, false, false] := by decide +kernel
  have hcalls : (((start.takeAll greeting.noting (fun _ => return ()) sampleSteps).run []).run ()).1.2.length = 1 := by
    decide +kernel
  rcases takeAll_start greeting.noting (fun _ => return ()) sampleSteps with
    ⟨hnone, -⟩ | ⟨before, source, config, d, after, hsteps, hbefore, hload, hrun⟩
  · have hnever : sampleSteps.map (·.detector?.isSome) = sampleSteps.map fun _ => false :=
      List.map_congr_left fun step hstep => by rw [hnone step hstep]; rfl
    rw [hmakes] at hnever
    cases hnever
  · refine ⟨before, source, config, d, after, hsteps, ?_, hload, hrun, hcalls⟩
    have hnever : before.map (·.detector?.isSome) = before.map fun _ => false :=
      List.map_congr_left fun step hstep => by rw [hbefore step hstep]; rfl
    have hmade : (Step.init source config : Step (Logged Exchange Unit)).detector?.isSome = true := by
      rw [Step.detector?, hload]
      rfl
    rw [hsteps, List.map_append, List.map_cons, hnever, hmade] at hmakes
    match before, hmakes with
    | [_, _], _ => rfl
    | [], h => cases h
    | [_], h => cases h
    | _ :: _ :: _ :: _, h => cases h

end SiteProbe.Session
