import SiteProbe.Proofs.Detection
import SiteProbe.Proofs.Rounds

/-!
# Calls of a detection

Whatever the fetcher answers, from call to call, a detection makes rounds of calls for the groups of its store in
ascending order until the host proves to be unreachable, marks the paths of the groups without a page, and keeps what
the other pages showed (`detect_calls`). An augmenter calls no fetcher and takes nothing away (`runs_augment`).
-/

namespace SiteProbe.Detector

variable {σ : Type} {d : Detector} {target : String} {gs skipped : List Group} {rounds : List Round}

/-! ## Failed paths -/

theorem filterMap_failedPath?_sublist (vs : List Visit) :
    (vs.filterMap Visit.failedPath?).Sublist (vs.map (·.1.path)) := by
  induction vs with
  | nil => exact .refl []
  | cons v rest ih =>
    obtain ⟨g, answer⟩ := v
    cases answer with
    | ok page => exact ih.cons g.path
    | error e => exact ih.cons_cons g.path

namespace IsCourse

theorem failedPaths_after (h : d.IsCourse target gs rounds skipped) (retries : UInt32) :
    (Findings.empty.after gs (rounds.map (Round.visit retries))).failedPaths =
      ((rounds.map (Round.visit retries)).filterMap Visit.failedPath? ++ skipped.map (·.path)).foldl addOnce [] := by
  have hskipped : gs.drop (rounds.map (Round.visit retries)).length = skipped := by
    rw [h.groups, List.length_map, ← List.length_map Round.group, List.drop_left]
  rw [Findings.failedPaths_after, hskipped]
  rfl

/-- A path fails if a round of it does, or if a group of it is skipped. -/
theorem mem_failedPaths_iff (h : d.IsCourse target gs rounds skipped) (retries : UInt32) {path : String} :
    path ∈ (Findings.empty.after gs (rounds.map (Round.visit retries))).failedPaths ↔
      (∃ r ∈ rounds, r.Failed ∧ r.group.path = path) ∨ ∃ g ∈ skipped, g.path = path := by
  have hfailed : path ∈ (rounds.map (Round.visit retries)).filterMap Visit.failedPath? ↔
      ∃ r ∈ rounds, r.Failed ∧ r.group.path = path := by
    rw [List.filterMap_map, List.mem_filterMap]
    exact exists_congr fun r => and_congr_right fun _ => Round.failedPath?_visit retries
  rw [h.failedPaths_after, mem_foldl_addOnce, List.mem_append, hfailed, List.mem_map]
  simp only [List.not_mem_nil, false_or]

/-- Failed paths ascend if the paths of the groups do not descend. -/
theorem pairwise_failedPaths (h : d.IsCourse target gs rounds skipped) (retries : UInt32)
    (hgs : (gs.map (·.path)).Pairwise fun a b => a < b ∨ a = b) :
    (Findings.empty.after gs (rounds.map (Round.visit retries))).failedPaths.Pairwise (· < ·) := by
  rw [h.failedPaths_after]
  refine pairwise_foldl_addOnce (hgs.sublist ?_)
  have hmap : (rounds.map (Round.visit retries)).map (·.1.path) = (rounds.map (·.group)).map (·.path) := by
    rw [List.map_map, List.map_map]
    rfl
  rw [h.groups, List.map_append, ← hmap]
  exact (filterMap_failedPath?_sublist _).append_right _

end IsCourse

/-- The paths of the groups of a store do not descend. -/
theorem pairwise_groups_path (s : Store) : (s.groups.map (·.path)).Pairwise fun a b => a < b ∨ a = b := by
  rw [List.pairwise_map]
  refine s.pairwise_groups.imp fun hlt => ?_
  exact (GroupKey.compare_eq_lt_iff.mp hlt).imp_right And.left

/-! ## Runs -/

/-- An augmenter makes no calls, and what was found is kept. -/
theorem runs_augment (d : Detector) (w : World (StateM σ)) (augmenter : Augmenter (StateM σ)) (target : String)
    (found : Detections) (s : σ) : ∃ found' s',
      Runs (d.augment w.noting augmenter.silently target found) s [] found' s' ∧ Detections.Keeps found found' := by
  have hask := Runs.silently (ε := Call) (augmenter target d.store found) s
  generalize (augmenter target d.store found).run s = out at hask
  obtain ⟨⟨answer, takes⟩, s'⟩ := out
  have hpause (t : Duration) := Runs.silently (ε := Call) (w.pause t) s'
  unfold augment
  cases takes with
  | none => exact ⟨found, _, hask.bind ((hpause _).bind (Runs.pure found _)), .refl found⟩
  | some t =>
    by_cases ht : t.le d.config.augmentTimeout = true
    · cases answer with
      | ok augmented =>
        refine ⟨found.merge augmented, ((w.pause t).run s').2, hask.bind ?_, Detections.keeps_merge found augmented⟩
        simp only [ht, if_true]
        exact (hpause t).bind (Runs.pure (found.merge augmented) _)
      | error e =>
        refine ⟨found, ((w.pause t).run s').2, hask.bind ?_, .refl found⟩
        simp only [ht, if_true]
        exact (hpause t).bind (Runs.pure found _)
    · refine ⟨found, ((w.pause d.config.augmentTimeout).run s').2, hask.bind ?_, .refl found⟩
      simp only [ht]
      exact (hpause _).bind (Runs.pure found _)

/-- A detection makes the rounds of a course, and keeps what they showed. -/
theorem runs_detect (d : Detector) (w : World (StateM σ)) (augmenter : Option (Augmenter (StateM σ))) {url : String}
    {target : Url} (hurl : Url.parse url = .ok target) (hhttp : target.isHttp) (s : σ) :
    ∃ f rounds skipped s', Runs (d.detect w.noting (augmenter.map Augmenter.silently) url) s
        (rounds.flatMap Round.calls) (.ok f) s' ∧ d.IsCourse url d.store.groups rounds skipped ∧
      f.failedPaths = (Findings.empty.after d.store.groups
        (rounds.map (Round.visit d.config.retry.maxRetries))).failedPaths ∧
      Detections.Keeps (Round.shown rounds) f.technologies := by
  obtain ⟨rounds, skipped, s', hvisit, hcourse⟩ := runs_visit d w url d.store.groups s
  have hprobe := hvisit.map (Findings.empty.after d.store.groups)
  rw [← probe_eq] at hprobe
  let f := Findings.empty.after d.store.groups (rounds.map (Round.visit d.config.retry.maxRetries))
  have hkept {found : Detections} (h : Detections.Keeps f.technologies found) :
      Detections.Keeps (Round.shown rounds) (found.close d.store) := by
    have hshown : f.technologies = Round.shown rounds := by
      rw [Findings.technologies_after, Round.flatMap_kept?_visit]
      rfl
    rw [← hshown]
    exact h.trans (Detections.keeps_close d.store found)
  unfold detect
  rw [hurl]
  simp only [hhttp, Bool.not_true, Bool.false_eq_true, if_false]
  cases augmenter with
  | none =>
    refine ⟨{ f with technologies := f.technologies.close d.store }, rounds, skipped, s', ?_, hcourse, rfl,
      hkept (.refl f.technologies)⟩
    exact hprobe.bind_nil ((Runs.pure f.technologies s').bind (Runs.pure _ s'))
  | some augmenter =>
    obtain ⟨found, s'', hrun, hkeeps⟩ := runs_augment d w augmenter url f.technologies s'
    refine ⟨{ f with technologies := found.close d.store }, rounds, skipped, s'', ?_, hcourse, rfl, hkept hkeeps⟩
    exact hprobe.bind_nil (hrun.bind (Runs.pure _ s''))

/-! ## What holds for every fetcher -/

/-- The groups of a store ascend, byte by byte: in their paths, and under one path in the shapes of their requests. -/
theorem pairwise_groups_encode (s : Store) : s.groups.Pairwise fun g h => Utf8.encode g.path < Utf8.encode h.path ∨
    g.path = h.path ∧ Utf8.encode g.request.shapeKey < Utf8.encode h.request.shapeKey := by
  refine s.pairwise_groups.imp fun hlt => ?_
  rw [Utf8.encode_lt_encode_iff, Utf8.encode_lt_encode_iff]
  exact GroupKey.compare_eq_lt_iff.mp hlt

theorem keeps_shown_take (rounds : List Round) (n : Nat) :
    Detections.Keeps (Round.shown (rounds.take n)) (Round.shown rounds) := by
  have hsplit : Round.shown rounds = (Round.shown (rounds.take n)).updateAll ((rounds.drop n).flatMap Round.shows) := by
    rw [Round.shown, Round.shown, ← Detections.updateAll_append, ← List.flatMap_append, List.take_append_drop]
  rw [hsplit]
  exact Detections.keeps_updateAll _ _

/-- The calls of a detection are rounds for its groups in ascending order, up to the first one that is fatal. The paths
with a round that failed or a group that was skipped fail, and no others, in ascending order and each once, and what the
first rounds showed is kept, however the others end. -/
theorem detect_calls (d : Detector) (w : World (StateM σ)) (augmenter : Option (Augmenter (StateM σ))) {url : String}
    {target : Url} (hurl : Url.parse url = .ok target) (hhttp : target.isHttp) (s : σ) :
    ∃ f calls s' rounds skipped,
      ((d.detect w.noting (augmenter.map Augmenter.silently) url).run []).run s = ((.ok f, calls), s') ∧
      calls = rounds.flatMap Round.calls ∧ d.IsCourse url d.store.groups rounds skipped ∧
      (d.store.groups.Pairwise fun g h => Utf8.encode g.path < Utf8.encode h.path ∨
        g.path = h.path ∧ Utf8.encode g.request.shapeKey < Utf8.encode h.request.shapeKey) ∧
      (∀ path, path ∈ f.failedPaths ↔
        (∃ r ∈ rounds, r.Failed ∧ r.group.path = path) ∨ ∃ g ∈ skipped, g.path = path) ∧
      (f.failedPaths.Pairwise fun a b => Utf8.encode a < Utf8.encode b) ∧
      ∀ n, Detections.Keeps (Round.shown (rounds.take n)) f.technologies := by
  obtain ⟨f, rounds, skipped, s', hrun, hcourse, hfailed, hkeeps⟩ := runs_detect d w augmenter hurl hhttp s
  refine ⟨f, rounds.flatMap Round.calls, s', rounds, skipped, hrun.run_nil, rfl, hcourse,
    pairwise_groups_encode d.store, ?_, ?_, fun n => (keeps_shown_take rounds n).trans hkeeps⟩
  · intro path
    rw [hfailed]
    exact hcourse.mem_failedPaths_iff d.config.retry.maxRetries
  · rw [hfailed]
    refine (hcourse.pairwise_failedPaths d.config.retry.maxRetries (pairwise_groups_path d.store)).imp fun hlt => ?_
    exact Utf8.encode_lt_encode_iff.mpr hlt

/-- A world without a network. -/
def darkWorld : World (StateM Unit) where
  fetch _ _ := return .error (.unreachable "network is unreachable")
  pause _ := return ()

/-- Where the host cannot be reached, the first group has its retry, and the second path fails unasked. -/
theorem detect_calls_darkWorld : ∃ f calls s',
    ((twoPaths.detect darkWorld.noting none "http://a.test/").run []).run () = ((.ok f, calls), s') ∧
      calls.length = 2 ∧ f.failedPaths = ["/", "/v"] ∧
        f.failedPaths.Pairwise fun a b => Utf8.encode a < Utf8.encode b := by
  obtain ⟨f, calls, s', -, -, hrun, -, -, -, -, hsorted, -⟩ :=
    detect_calls twoPaths darkWorld none Url.parse_sampleRoot (by decide) ()
  have hcalls : (((twoPaths.detect darkWorld.noting none "http://a.test/").run []).run ()).1.2.length = 2 := by
    decide +kernel
  have hpaths : (((twoPaths.detect darkWorld.noting none "http://a.test/").run []).run ()).1.1.toOption.map
      (·.failedPaths) = some ["/", "/v"] := by
    decide +kernel
  rw [Option.map_none] at hrun
  rw [hrun] at hcalls hpaths
  exact ⟨f, calls, s', hrun, hcalls, Option.some.inj hpaths, hsorted⟩

end SiteProbe.Detector
