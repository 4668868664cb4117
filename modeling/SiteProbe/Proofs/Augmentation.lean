import SiteProbe.Proofs.Detection
import SiteProbe.Proofs.LeastClosure

/-!
# Detections with and without an augmenter

Two detections from one state, one by the pages alone and one with an augmenter. The augmenter can add to what is found,
and can tell versions that were not known, but nothing else (`detect_augments`): every technology, every known version
and all failed paths stay as they are, and what is new comes from the detections that the augmenter returned, or is
implied by them. If it returns none in time, the results are the same.
-/

namespace SiteProbe

namespace Detections

variable {s : Store} {d m : Detections} {name version : String}

/-! ## Closures after a merge -/

/-- A merge that comes first takes nothing from a closure. -/
theorem keeps_close_merge (s : Store) (d m : Detections) : Keeps (d.close s) ((d.merge m).close s) :=
  keeps_of_isClosed (isClosed_close s _) ((keeps_merge d m).trans (keeps_close s _))

/-- What a merge adds to a closure is merged, or is implied by what is merged and has no version. -/
theorem merged_of_added (hnot : ¬(d.close s).contains name) (h : ((d.merge m).close s).get? name = some version) :
    m.get? name = some version ∨
      version = "" ∧ ∃ start, m.contains start ∧ Relation.ReflTransGen s.Implies start name := by
  have hbefore := close_isClosure s d
  have hafter := close_isClosure s (d.merge m)
  have hd : ¬d.contains name := fun hd => hnot ((keeps_close s d).contains hd)
  by_cases hmerged : (d.merge m).contains name
  · left
    rw [← get?_merge_of_not_contains hd, ← hafter.kept name hmerged, h]
  · right
    have hcontains : ((d.merge m).close s).contains name := by rw [Dict.contains, h, Option.isSome_some]
    rw [hafter.added name hcontains hmerged] at h
    obtain ⟨start, hstart, hreach⟩ := (hafter.contains_iff name).mp hcontains
    refine ⟨(Option.some.inj h).symm, start, (contains_merge.mp hstart).resolve_left fun hstart' => ?_, hreach⟩
    exact hnot ((hbefore.contains_iff name).mpr ⟨start, hstart', hreach⟩)

/-- A version that is known after a merge alone is merged. -/
theorem merged_of_upgraded (hbefore : (d.close s).get? name = some "")
    (h : ((d.merge m).close s).get? name = some version) (hne : version ≠ "") : m.get? name = some version := by
  have hafter := close_isClosure s (d.merge m)
  have hcontains : ((d.merge m).close s).contains name := by rw [Dict.contains, h, Option.isSome_some]
  by_cases hmerged : (d.merge m).contains name
  · rw [hafter.kept name hmerged] at h
    by_cases hd : d.contains name
    · rw [(close_isClosure s d).kept name hd] at hbefore
      rw [get?_merge, hbefore] at h
      cases hm : m.get? name with
      | none =>
        rw [hm, Option.toList_none, List.append_nil, best_toList] at h
        exact absurd (Option.some.inj h).symm hne
      | some merged =>
        by_cases hempty : merged = ""
        · simp [hm, best, hempty, hne.symm] at h
        · simpa [hm, best, hempty] using h
    · rwa [get?_merge_of_not_contains hd] at h
  · rw [hafter.added name hcontains hmerged] at h
    exact absurd (Option.some.inj h).symm hne

end Detections

/-! ## What an augmenter returns -/

/-- The detections that an augmenter returns, if it does so in time. -/
def Augmentation.returned? (limit : Duration) (a : Augmentation) : Option Detections :=
  match a.takes with
  | some t => if t.le limit then a.answer.toOption else none
  | none => none

namespace Detector

variable {σ : Type}

/-- The detections that the augmenter of a detection, if it has one, returns in time for what the pages showed. -/
def returned? (d : Detector) (w : World (StateM σ)) (augmenter : Option (Augmenter (StateM σ))) (url : String) (s : σ) :
    Option Detections :=
  let probed := (d.probe w url .empty d.store.groups).run s
  augmenter.bind fun augmenter =>
    ((augmenter url d.store probed.1.technologies).run probed.2).1.returned? d.config.augmentTimeout

/-- What was found is merged with what the augmenter returns in time. -/
theorem run_augment (d : Detector) (w : World (StateM σ)) (augmenter : Augmenter (StateM σ)) (url : String)
    (found : Detections) (s : σ) : ((d.augment w augmenter url found).run s).1 =
      ((((augmenter url d.store found).run s).1.returned? d.config.augmentTimeout).map found.merge).getD found := by
  unfold augment
  rw [StateT.run_bind]
  generalize (augmenter url d.store found).run s = out
  obtain ⟨⟨answer, takes⟩, s'⟩ := out
  cases takes with
  | none => rfl
  | some t =>
    have hreturned : Augmentation.returned? d.config.augmentTimeout ⟨answer, some t⟩ =
      if t.le d.config.augmentTimeout then answer.toOption else none := rfl
    show (StateT.run (if t.le d.config.augmentTimeout then _ else _ : StateM σ Detections) s').1 = _
    rw [hreturned]
    by_cases ht : t.le d.config.augmentTimeout = true
    · rw [if_pos ht, if_pos ht]
      cases answer <;> rfl
    · rw [if_neg ht, if_neg ht]
      rfl

/-- A detection with an augmenter, if there is one, merges what it returns before all that is implied is added. -/
theorem run_detect (d : Detector) (w : World (StateM σ)) (augmenter : Option (Augmenter (StateM σ))) {url : String}
    {target : Url} (hurl : Url.parse url = .ok target) (hhttp : target.isHttp) (s : σ) :
    let f := ((d.probe w url .empty d.store.groups).run s).1
    let merged := ((d.returned? w augmenter url s).map f.technologies.merge).getD f.technologies
    ((d.detect w augmenter url).run s).1 = .ok { f with technologies := merged.close d.store } := by
  intro f merged
  unfold detect
  rw [hurl]
  simp only [hhttp, Bool.not_true, Bool.false_eq_true, if_false]
  cases augmenter with
  | none => rfl
  | some augmenter =>
    have haugment := run_augment d w augmenter url f.technologies ((d.probe w url .empty d.store.groups).run s).2
    exact congrArg (fun found => Except.ok { f with technologies := Detections.close d.store found }) haugment

/-! ## What an augmenter may do -/

/-- How the findings with an augmenter, of which it returned some, differ from those without it. -/
structure Augments (s : Store) (returned : Option Detections) (f f' : Findings) : Prop where
  failedPaths : f'.failedPaths = f.failedPaths
  keeps : Detections.Keeps f.technologies f'.technologies
  added : ∀ name version, ¬f.technologies.contains name → f'.technologies.get? name = some version →
    ∃ m ∈ returned, m.get? name = some version ∨
      version = "" ∧ ∃ start, m.contains start ∧ Relation.ReflTransGen s.Implies start name
  upgraded : ∀ name version, f.technologies.get? name = some "" → f'.technologies.get? name = some version →
    version ≠ "" → ∃ m ∈ returned, m.get? name = some version
  taken : ∀ m ∈ returned, ∀ name, m.contains name → f'.technologies.contains name
  unchanged : returned = none → f' = f

/-- A merge before all that is implied is added makes no other difference. -/
theorem augments_merge (s : Store) (f : Findings) (returned : Option Detections) :
    Augments s returned { f with technologies := f.technologies.close s }
      { f with technologies := ((returned.map f.technologies.merge).getD f.technologies).close s } := by
  cases returned with
  | none =>
    refine ⟨rfl, .refl _, fun name version hnot h => ?_, fun name version hempty h hne => ?_, ?_, fun _ => rfl⟩
    · exact absurd (Option.isSome_iff_exists.mpr ⟨version, h⟩) hnot
    · exact absurd (Option.some.inj (h.symm.trans hempty)) hne
    · exact fun m hm => by cases hm
  | some m =>
    refine ⟨rfl, Detections.keeps_close_merge s f.technologies m, fun name version hnot h => ?_,
      fun name version hempty h hne => ?_, fun m' hm' name hname => ?_, fun h => by cases h⟩
    · exact ⟨m, rfl, Detections.merged_of_added hnot h⟩
    · exact ⟨m, rfl, Detections.merged_of_upgraded hempty h hne⟩
    · obtain rfl := Option.some.inj hm'
      exact (Detections.keeps_close s _).contains (Detections.contains_merge.mpr (.inr hname))

/-- Two detections from one state, the first by the pages alone. A URL that is not accepted is the same error for both;
otherwise both have findings, and an augmenter only adds. -/
theorem detect_augments (d : Detector) (w : World (StateM σ)) (augmenter : Option (Augmenter (StateM σ)))
    (url : String) (s : σ) :
    ((¬∃ target, Url.parse url = .ok target ∧ target.isHttp) → ∃ e,
      ((d.detectHttp w url).run s).1 = .error e ∧ ((d.detect w augmenter url).run s).1 = .error e) ∧
    ∀ target, Url.parse url = .ok target → target.isHttp → ∃ f f',
      ((d.detectHttp w url).run s).1 = .ok f ∧ ((d.detect w augmenter url).run s).1 = .ok f' ∧
        Augments d.store (d.returned? w augmenter url s) f f' := by
  constructor
  · intro hnot
    unfold detectHttp detect
    cases hurl : Url.parse url with
    | error e => exact ⟨.url e, rfl, rfl⟩
    | ok target =>
      have hhttp : target.isHttp = false := by
        rw [← Bool.not_eq_true]
        exact fun h => hnot ⟨target, hurl, h⟩
      refine ⟨.invalidInput ("unsupported scheme in " ++ url), ?_, ?_⟩
      · simp only [hhttp, Bool.not_false, if_true]
        rfl
      · simp only [hhttp, Bool.not_false, if_true]
        rfl
  · intro target hurl hhttp
    have haugments := augments_merge d.store ((d.probe w url .empty d.store.groups).run s).1
      (d.returned? w augmenter url s)
    exact ⟨_, _, run_detect d w none hurl hhttp s, run_detect d w augmenter hurl hhttp s, haugments⟩

/-- An augmenter that forgets what was found, and makes up a version and a technology. -/
def meddling : Augmenter (StateM Nat) := fun _ _ _ =>
  return ⟨.ok (.ofList [("Tool", "1"), ("Plugin", "3")]), some (.ofSeconds 1)⟩

/-- The version that a page showed stays, and the other technology is there, too. -/
theorem detect_augments_meddling : ∃ f f', ((twoPaths.detectHttp lateWorld "http://a.test/").run 0).1 = .ok f ∧
    ((twoPaths.detect lateWorld (some meddling) "http://a.test/").run 0).1 = .ok f' ∧
      f'.failedPaths = f.failedPaths ∧ f'.technologies.get? "Tool" = some "2" ∧ f'.technologies.contains "Plugin" := by
  obtain ⟨-, haccepted⟩ := detect_augments twoPaths lateWorld (some meddling) "http://a.test/" 0
  obtain ⟨f, f', hrun, hrun', haugments⟩ := haccepted _ Url.parse_sampleRoot (by decide)
  have htool : (((twoPaths.detectHttp lateWorld "http://a.test/").run 0).1.toOption.bind
      fun f => f.technologies.get? "Tool") = some "2" := by
    decide +kernel
  have hplugin : ((twoPaths.returned? lateWorld (some meddling) "http://a.test/" 0).bind
      fun m => m.get? "Plugin") = some "3" := by
    decide +kernel
  rw [hrun] at htool
  obtain ⟨version, hversion, hsame⟩ := haugments.keeps "Tool" "2" htool
  obtain ⟨m, hm, hm'⟩ := Option.bind_eq_some_iff.mp hplugin
  refine ⟨f, f', hrun, hrun', haugments.failedPaths, ?_, haugments.taken m hm "Plugin" ?_⟩
  · rw [hversion, hsame (by decide)]
  · rw [Dict.contains, hm', Option.isSome_some]

end Detector
end SiteProbe
