import SiteProbe.Proofs.Grouping
import SiteProbe.Proofs.Log
import SiteProbe.Proofs.Updates
import SiteProbe.Script

/-!
# Trials of script probes

A probe that is run on a page makes a trial: its scripts are evaluated as far as they can still find something out, and
each may answer anything or fail (`Trial`). Which scripts those are depends on what was found before (`Trial.IsDue`),
and that includes what earlier trials found (`Justified`).

The trials on a page follow the declared probes in order, some of which are passed over, and after a trial that finds
something there is none of the same technology (`IsPage`). This holds whatever the scripts answer, from call to call
(`runs_runProbes`, `runs_runTechnologies`).
-/

namespace SiteProbe

variable {σ : Type}

/-- What a script runtime is asked for, and its answer. -/
inductive ScriptCall where
  | navigate (url : String) (answer : Except Error Unit)
  | evalBool (script : String) (answer : Except Error Bool)
  | evalText (script : String) (answer : Except Error String)

/-- The URL that a call opens, if it opens one. -/
def ScriptCall.opens? : ScriptCall → Option String
  | .navigate url _ => some url
  | _ => none

/-- A script runtime that notes its calls. -/
def ScriptRuntime.noting (rt : ScriptRuntime (StateM σ)) : ScriptRuntime (Logged ScriptCall σ) where
  navigate url := SiteProbe.noting (.navigate url) (rt.navigate url)
  evalBool script := SiteProbe.noting (.evalBool script) (rt.evalBool script)
  evalText script := SiteProbe.noting (.evalText script) (rt.evalText script)

/-- A probe that is run for a technology, with what its scripts answer as far as they are evaluated. -/
structure Trial where
  name : String
  probe : ScriptProbe
  detection : Option (Except Error Bool)
  version : Option (Except Error String)

/-- What a script told, if it was evaluated and did not fail. -/
def told {α : Type} (otherwise : α) (answer : Option (Except Error α)) : α :=
  (answer.bind Except.toOption).getD otherwise

/-- A script that told anything else was evaluated and did not fail. -/
theorem eq_of_told_ne {α : Type} {otherwise : α} {answer : Option (Except Error α)}
    (h : told otherwise answer ≠ otherwise) : answer = some (.ok (told otherwise answer)) := by
  cases answer with
  | none => exact absurd rfl h
  | some result =>
    cases result with
    | error e => exact absurd rfl h
    | ok value => rfl

namespace Trial

/-- The technology and the probe of a trial. -/
def asked (t : Trial) : String × ScriptProbe := (t.name, t.probe)

/-- Whether the detection script just told that the technology is there. -/
def detected (t : Trial) : Bool := told false t.detection

/-- The version that the version script told; it is empty if there is none. -/
def text (t : Trial) : String := told "" t.version

/-- Whether a trial detects its technology or tells a version of it. -/
def finds (t : Trial) : Bool := t.detected || t.text ≠ ""

/-- What a trial finds. -/
def news (t : Trial) : List (String × String) := if t.finds then [(t.name, t.text)] else []

/-- The calls of a trial: first the detection script, then the version script. -/
def calls (t : Trial) : List ScriptCall :=
  t.detection.toList.map (.evalBool (ScriptProbe.wrap t.probe.detection)) ++
    t.version.toList.map (.evalText (ScriptProbe.wrap t.probe.version))

/-- A trial is due if it can find out something new: whether a technology that was not found is there, or the version of
one that was found without a version. Its detection script is evaluated if the probe has one, and its version script if
the probe has one and the technology was found just now or before. -/
structure IsDue (found : Detections) (t : Trial) : Prop where
  unsettled : found.get? t.name = none ∧ t.probe.canDetect ∨ found.get? t.name = some "" ∧ t.probe.canTellVersion
  detection : t.detection.isSome = t.probe.canDetect
  version : t.version.isSome = (t.probe.canTellVersion && (t.detected || found.contains t.name))

variable {found : Detections} {t : Trial}

theorem news_of_finds (h : t.finds) : t.news = [(t.name, t.text)] := if_pos h

theorem news_of_not_finds (h : ¬t.finds) : t.news = [] := if_neg h

/-- A version that is told comes from the version script. -/
theorem version_of_text (h : t.text ≠ "") : t.version = some (.ok t.text) := eq_of_told_ne h

/-- A technology is detected by the detection script. -/
theorem detection_of_detected (h : t.detected) : t.detection = some (.ok true) := by
  have hne : t.detected ≠ false := by simp [h]
  rw [eq_of_told_ne hne]
  exact congrArg (fun b => some (Except.ok b)) h

/-- Only a technology that is found has its version told. -/
theorem IsDue.contains_of_text (h : IsDue found t) (htext : t.text ≠ "") : t.detected || found.contains t.name := by
  have hversion := h.version
  rw [version_of_text htext] at hversion
  exact (Bool.and_eq_true _ _ ▸ hversion.symm).2

/-- What decides whether a trial is the last one of its technology is that it finds something. -/
theorem IsDue.finds_eq (h : IsDue found t) : (t.detected || (t.text ≠ "" && found.contains t.name)) = t.finds := by
  unfold finds
  by_cases htext : t.text = ""
  · simp [htext]
  · have hcontains := h.contains_of_text htext
    cases hdetected : t.detected <;> simp_all

/-- A technology that was not found before is only found by its detection script. -/
theorem IsDue.detected_of_finds (h : IsDue found t) (hfinds : t.finds) (hnot : ¬found.contains t.name) : t.detected := by
  by_cases htext : t.text = ""
  · simpa [finds, htext] using hfinds
  · simpa [hnot] using h.contains_of_text htext

end Trial

/-! ## Trials in a row -/

/-- Each trial is due for what was found before it. -/
inductive Justified : Detections → List Trial → Prop
  | nil (found : Detections) : Justified found []
  | cons {found : Detections} {t : Trial} {ts : List Trial} :
      t.IsDue found → Justified (found.updateAll t.news) ts → Justified found (t :: ts)

variable {found : Detections} {t : Trial} {ts us : List Trial}

theorem Justified.append (h : Justified found ts) (h' : Justified (found.updateAll (ts.flatMap Trial.news)) us) :
    Justified found (ts ++ us) := by
  induction h with
  | nil => exact h'
  | cons hdue _ ih =>
    rw [List.flatMap_cons, Detections.updateAll_append] at h'
    exact .cons hdue (ih h')

/-- Trials that are justified together are due, each at its moment. -/
theorem Justified.isDue (before : List Trial) {after : List Trial} (h : Justified found (before ++ t :: after)) :
    t.IsDue (found.updateAll (before.flatMap Trial.news)) := by
  induction before generalizing found with
  | nil =>
    cases h with
    | cons hdue _ => exact hdue
  | cons u rest ih =>
    cases h with
    | cons _ hrest =>
      rw [List.flatMap_cons, Detections.updateAll_append]
      exact ih hrest

/-- The trials on a page, for probes that are declared for it: they come in the order of the declarations, each is due,
and once a technology has been found it is settled. -/
structure IsPage (found : Detections) (declared : List (String × ScriptProbe)) (ts : List Trial) : Prop where
  order : (ts.map Trial.asked).Sublist declared
  justified : Justified found ts
  settled : ts.Pairwise fun t u => t.finds → u.name ≠ t.name

namespace IsPage

variable {declared more : List (String × ScriptProbe)}

theorem nil (found : Detections) (declared : List (String × ScriptProbe)) : IsPage found declared [] where
  order := List.nil_sublist declared
  justified := .nil found
  settled := .nil

/-- A probe may be passed over. -/
theorem skip (h : IsPage found declared ts) (d : String × ScriptProbe) : IsPage found (d :: declared) ts where
  order := h.order.cons d
  justified := h.justified
  settled := h.settled

/-- After a trial that finds something all other probes may be passed over. -/
theorem last (hdue : t.IsDue found) (declared : List (String × ScriptProbe)) :
    IsPage found (t.asked :: declared) [t] where
  order := (List.nil_sublist declared).cons_cons t.asked
  justified := .cons hdue (.nil _)
  settled := List.pairwise_singleton _ t

/-- After a trial that finds nothing things are as before. -/
theorem cons (hdue : t.IsDue found) (hfinds : ¬t.finds) (h : IsPage found declared ts) :
    IsPage found (t.asked :: declared) (t :: ts) where
  order := h.order.cons_cons t.asked
  justified := by
    refine .cons hdue ?_
    rw [Trial.news_of_not_finds hfinds]
    exact h.justified
  settled := List.pairwise_cons.mpr ⟨fun _ _ hfinds' => absurd hfinds' hfinds, h.settled⟩

/-- Technologies have their trials one after the other. -/
theorem append (h : IsPage found declared ts) (h' : IsPage (found.updateAll (ts.flatMap Trial.news)) more us)
    (hnames : ∀ d ∈ declared, ∀ e ∈ more, e.1 ≠ d.1) : IsPage found (declared ++ more) (ts ++ us) where
  order := by
    rw [List.map_append]
    exact h.order.append h'.order
  justified := h.justified.append h'.justified
  settled := by
    refine List.pairwise_append.mpr ⟨h.settled, h'.settled, ?_⟩
    intro t ht u hu _
    exact hnames t.asked (h.order.subset (List.mem_map_of_mem ht)) u.asked (h'.order.subset (List.mem_map_of_mem hu))

end IsPage

/-! ## Runs -/

/-- What comes behind either of two actions may be written behind both. -/
theorem Runs.bind_ite {ε α β : Type} {c : Bool} {x y : Logged ε σ α} {f : α → Logged ε σ β} {s s' s'' : σ}
    {t t' : List ε} {a : α} {b : β} (hx : Runs (if c then x else y) s t a s') (hf : Runs (f a) s' t' b s'') :
    Runs (if c then x >>= f else y >>= f) s (t ++ t') b s'' := by
  cases c with
  | true => exact Runs.bind hx hf
  | false => exact Runs.bind hx hf

namespace ScriptRuntime

/-- A probe can find something out if a trial of it is due. -/
theorem shouldRun_iff {p : ScriptProbe} {name : String} : p.shouldRun name found ↔
    found.get? name = none ∧ p.canDetect ∨ found.get? name = some "" ∧ p.canTellVersion := by
  unfold ScriptProbe.shouldRun
  cases found.get? name <;> simp

/-- The detection script is evaluated if there is one. -/
theorem runs_detects (rt : ScriptRuntime (StateM σ)) (p : ScriptProbe) (s : σ) :
    ∃ (answer : Option (Except Error Bool)) (s' : σ),
      Runs (rt.noting.detects p) s (answer.toList.map (ScriptCall.evalBool (ScriptProbe.wrap p.detection)))
        (told false answer) s' ∧ answer.isSome = p.canDetect := by
  unfold detects
  by_cases hcan : p.canDetect = true
  · rw [if_pos hcan]
    have hrun := Runs.noting (ScriptCall.evalBool (ScriptProbe.wrap p.detection))
      (rt.evalBool (ScriptProbe.wrap p.detection)) s
    exact ⟨some _, _, hrun.bind_nil (Runs.pure _ _), hcan.symm⟩
  · rw [if_neg hcan]
    exact ⟨none, s, Runs.pure false s, (Bool.eq_false_iff.mpr hcan).symm⟩

/-- The version script is evaluated under its condition. -/
theorem runs_versionOf (rt : ScriptRuntime (StateM σ)) (p : ScriptProbe) (can : Bool) (s : σ) :
    ∃ (answer : Option (Except Error String)) (s' : σ),
      Runs (if can then rt.noting.versionOf p else pure "") s
        (answer.toList.map (ScriptCall.evalText (ScriptProbe.wrap p.version))) (told "" answer) s' ∧
        answer.isSome = can := by
  cases can with
  | true =>
    have hrun := Runs.noting (ScriptCall.evalText (ScriptProbe.wrap p.version))
      (rt.evalText (ScriptProbe.wrap p.version)) s
    exact ⟨some _, _, hrun.bind_nil (Runs.pure _ _), rfl⟩
  | false => exact ⟨none, s, Runs.pure "" s, rfl⟩

/-- A probe that can find something out makes a trial that is due, and how things go on depends on what it finds. -/
theorem runs_trial (rt : ScriptRuntime (StateM σ)) {name : String} {found : Detections} {p : ScriptProbe}
    (hrun : p.shouldRun name found = true) (rest : List ScriptProbe) (s : σ) :
    ∃ (t : Trial) (s' : σ), t.asked = (name, p) ∧ t.IsDue found ∧
      ∀ {calls : List ScriptCall} {found' : Detections} {s'' : σ},
        Runs (if t.finds then pure (found.update name t.text).1 else rt.noting.runProbes name found rest) s' calls
          found' s'' →
        Runs (rt.noting.runProbes name found (p :: rest)) s (t.calls ++ calls) found' s'' := by
  obtain ⟨detection, s₁, hdetects, hdetection⟩ := runs_detects rt p s
  obtain ⟨version, s₂, hversionOf, hversion⟩ := runs_versionOf rt p
    (p.canTellVersion && (told false detection || found.contains name)) s₁
  let t : Trial := ⟨name, p, detection, version⟩
  have hdue : t.IsDue found := ⟨shouldRun_iff.mp hrun, hdetection, hversion⟩
  have hfinds : (t.detected || (t.text ≠ "" && found.contains name)) = t.finds := hdue.finds_eq
  refine ⟨t, s₂, rfl, hdue, fun hgoes => ?_⟩
  rw [← hfinds] at hgoes
  rw [runProbes, if_pos hrun, Trial.calls, List.append_assoc]
  exact hdetects.bind (hversionOf.bind_ite hgoes)

/-- The probes of a technology make trials until one finds something. -/
theorem runs_runProbes (rt : ScriptRuntime (StateM σ)) (name : String) (found : Detections) (probes : List ScriptProbe)
    (s : σ) : ∃ ts s', Runs (rt.noting.runProbes name found probes) s (ts.flatMap Trial.calls)
        (found.updateAll (ts.flatMap Trial.news)) s' ∧
      IsPage found (probes.map fun p => (name, p)) ts := by
  induction probes generalizing s with
  | nil => exact ⟨[], s, Runs.pure found s, .nil found []⟩
  | cons p rest ih =>
    by_cases hrun : p.shouldRun name found = true
    · obtain ⟨t, s₁, hasked, hdue, hgoes⟩ := runs_trial rt hrun rest s
      obtain ⟨rfl, rfl⟩ := Prod.mk.inj hasked
      by_cases hfinds : t.finds = true
      · rw [if_pos hfinds] at hgoes
        refine ⟨[t], s₁, ?_, .last hdue _⟩
        rw [List.flatMap_singleton, List.flatMap_singleton, Trial.news_of_finds hfinds, ← List.append_nil t.calls]
        exact hgoes (Runs.pure _ s₁)
      · rw [if_neg hfinds] at hgoes
        obtain ⟨ts, s', hrest, hpage⟩ := ih s₁
        refine ⟨t :: ts, s', ?_, .cons hdue hfinds hpage⟩
        rw [List.flatMap_cons, List.flatMap_cons, Trial.news_of_not_finds hfinds, List.nil_append]
        exact hgoes hrest
    · obtain ⟨ts, s', hrest, hpage⟩ := ih s
      refine ⟨ts, s', ?_, hpage.skip (name, p)⟩
      rw [runProbes, if_neg hrun]
      exact hrest

/-- The technologies of a page have their trials one after the other. -/
theorem runs_runTechnologies (rt : ScriptRuntime (StateM σ)) {technologies : List (String × List ScriptProbe)}
    (hnames : (technologies.map (·.1)).Nodup) (found : Detections) (s : σ) :
    ∃ ts s', Runs (rt.noting.runTechnologies found technologies) s (ts.flatMap Trial.calls)
        (found.updateAll (ts.flatMap Trial.news)) s' ∧
      IsPage found (Grouping.declared technologies) ts := by
  induction technologies generalizing found s with
  | nil => exact ⟨[], s, Runs.pure found s, .nil found []⟩
  | cons technology rest ih =>
    obtain ⟨name, probes⟩ := technology
    obtain ⟨hname, hrest⟩ := List.nodup_cons.mp hnames
    obtain ⟨ts, s₁, hprobes, hpage⟩ := runs_runProbes rt name found probes s
    obtain ⟨us, s', hothers, hpage'⟩ := ih hrest (found.updateAll (ts.flatMap Trial.news)) s₁
    refine ⟨ts ++ us, s', ?_, hpage.append hpage' ?_⟩
    · rw [List.flatMap_append, List.flatMap_append, Detections.updateAll_append]
      exact hprobes.bind hothers
    · intro d hd e he heq
      obtain ⟨p, -, rfl⟩ := List.mem_map.mp hd
      obtain ⟨b, hb, he⟩ := List.mem_flatMap.mp he
      obtain ⟨q, -, rfl⟩ := List.mem_map.mp he
      exact hname (List.mem_map.mpr ⟨b, hb, heq⟩)

end ScriptRuntime
end SiteProbe
