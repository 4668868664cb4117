import SiteProbe.Proofs.Classification
import SiteProbe.Proofs.Trials

/-!
# Surveys by scripts

A survey opens one page for each path that the script probes of a store name, in order, and makes trials on the pages
that open (`IsSurvey`). Whatever the runtime answers, from call to call, a survey is made (`runs_augment`), and

- the calls are openings, each with its trials behind it, and each trial is due at its moment (`augment_calls`);
- what is found anew was told by a script of the technology in question, on a page that did open, and all else is left as
  it was (`augment_adds`).
-/

namespace SiteProbe

variable {σ : Type}

/-! ## Groups of script probes -/

namespace Store

variable {s : Store} {g : ScriptGroup}

theorem nodup_scriptBlocks (s : Store) : (s.scriptBlocks.map (·.1)).Nodup := s.nodup_listed _

theorem mem_gather_of_mem_scriptGroups (hg : g ∈ s.scriptGroups) :
    (g.path, g.technologies) ∈ (Grouping.gather ScriptProbe.path (Grouping.declared s.scriptBlocks)).toList := by
  rw [← scriptGroups_eq]
  exact List.mem_map.mpr ⟨g, hg, rfl⟩

/-- The probes of a group are the declared ones with its path, in order. -/
theorem declared_technologies (hg : g ∈ s.scriptGroups) :
    Grouping.declared g.technologies = s.declaredScripts.filter fun d => d.2.path = g.path := by
  have hshare : g.technologies = Grouping.share ScriptProbe.path g.path s.scriptBlocks :=
    (Grouping.eq_share_of_mem_gather s.nodup_scriptBlocks (mem_gather_of_mem_scriptGroups hg)).1
  rw [hshare, Grouping.declared_share, declaredScripts_eq]

/-- A group has each of its technologies once. -/
theorem nodup_technologies (hg : g ∈ s.scriptGroups) : (g.technologies.map (·.1)).Nodup := by
  have hnames := s.classifies_scriptGroups.names (g.path, g.technologies) (List.mem_map.mpr ⟨g, hg, rfl⟩)
  rw [List.Nodup, List.pairwise_map]
  refine hnames.imp fun hlt heq => ?_
  rw [heq] at hlt
  exact List.lt_irrefl _ hlt

/-- The paths of the groups are those of the declared probes. -/
theorem mem_scriptPaths_iff {path : String} :
    path ∈ s.scriptGroups.map (·.path) ↔ ∃ d ∈ s.declaredScripts, d.2.path = path := by
  constructor
  · intro h
    obtain ⟨g, hg, rfl⟩ := List.mem_map.mp h
    have hne : s.declaredScripts.filter (fun d => d.2.path = g.path) ≠ [] := by
      have hshare := Grouping.eq_share_of_mem_gather s.nodup_scriptBlocks (mem_gather_of_mem_scriptGroups hg)
      rw [declaredScripts_eq]
      exact mt (Grouping.filter_declared_eq_nil_iff ScriptProbe.path g.path s.scriptBlocks).mp hshare.2
    obtain ⟨d, hd⟩ := List.exists_mem_of_ne_nil _ hne
    obtain ⟨hd, hpath⟩ := List.mem_filter.mp hd
    exact ⟨d, hd, of_decide_eq_true hpath⟩
  · rintro ⟨d, hd, rfl⟩
    rw [declaredScripts_eq] at hd
    have hmem : d.2.path ∈ (Grouping.gather ScriptProbe.path (Grouping.declared s.scriptBlocks)).toList.map (·.1) :=
      Grouping.key_mem_gather s.nodup_scriptBlocks hd
    rwa [← scriptGroups_eq, List.map_map] at hmem

/-- Probes are declared in the order of the names of their technologies. -/
theorem pairwise_declaredScripts (s : Store) :
    s.declaredScripts.Pairwise fun d e => Utf8.encode d.1 < Utf8.encode e.1 ∨ d.1 = e.1 := by
  unfold declaredScripts
  refine List.pairwise_flatMap.mpr ⟨fun e _ => ?_, s.pairwise_toList.imp fun hlt d hd e he => ?_⟩
  · exact List.pairwise_map.mpr (List.pairwise_of_forall fun _ _ => .inr rfl)
  · obtain ⟨p, -, rfl⟩ := List.mem_map.mp hd
    obtain ⟨q, -, rfl⟩ := List.mem_map.mp he
    exact .inl (Utf8.encode_lt_encode_iff.mpr hlt)

end Store

/-! ## Surveys -/

/-- A page that was to be opened, what came of it, and the trials on the page. -/
structure Opening where
  path : String
  answer : Except Error Unit
  trials : List Trial

/-- The calls of an opening, for a target. -/
def Opening.calls (target : String) (o : Opening) : List ScriptCall :=
  .navigate (Url.probeAddress target o.path) o.answer :: o.trials.flatMap Trial.calls

/-- The openings of a survey: on a page that does not open there are no trials; on the others, declared probes of the
path are tried in order, those of one technology until one finds something; and each trial is due for what was found
before it, on whatever page. -/
structure IsSurvey (s : Store) (found : Detections) (os : List Opening) : Prop where
  closed : ∀ o ∈ os, ∀ e, o.answer = .error e → o.trials = []
  order : ∀ o ∈ os, (o.trials.map Trial.asked).Sublist (s.declaredScripts.filter fun d => d.2.path = o.path)
  settled : ∀ o ∈ os, o.trials.Pairwise fun t u => t.finds → u.name ≠ t.name
  justified : Justified found (os.flatMap (·.trials))

namespace IsSurvey

variable {s : Store} {found : Detections} {os : List Opening} {path : String}

theorem nil (s : Store) (found : Detections) : IsSurvey s found [] where
  closed _ h := by cases h
  order _ h := by cases h
  settled _ h := by cases h
  justified := .nil found

/-- A page that does not open changes nothing. -/
theorem cons_closed (h : IsSurvey s found os) (path : String) (e : Error) :
    IsSurvey s found (⟨path, .error e, []⟩ :: os) where
  closed := List.forall_mem_cons.mpr ⟨fun _ _ => rfl, h.closed⟩
  order := List.forall_mem_cons.mpr ⟨List.nil_sublist _, h.order⟩
  settled := List.forall_mem_cons.mpr ⟨.nil, h.settled⟩
  justified := h.justified

/-- A page that opens has its trials before those of the others. -/
theorem cons_opened {ts : List Trial} (hpage : IsPage found (s.declaredScripts.filter fun d => d.2.path = path) ts)
    (h : IsSurvey s (found.updateAll (ts.flatMap Trial.news)) os) : IsSurvey s found (⟨path, .ok (), ts⟩ :: os) where
  closed := List.forall_mem_cons.mpr ⟨fun e he => (by cases he), h.closed⟩
  order := List.forall_mem_cons.mpr ⟨hpage.order, h.order⟩
  settled := List.forall_mem_cons.mpr ⟨hpage.settled, h.settled⟩
  justified := hpage.justified.append h.justified

end IsSurvey

namespace ScriptRuntime

/-- Going through groups of a store makes a survey of their paths. -/
theorem runs_runGroups (rt : ScriptRuntime (StateM σ)) (target : String) (s : Store) {gs : List ScriptGroup}
    (hgs : ∀ g ∈ gs, g ∈ s.scriptGroups) (found : Detections) (st : σ) :
    ∃ os st', Runs (rt.noting.runGroups target found gs) st (os.flatMap (Opening.calls target))
        (found.updateAll ((os.flatMap (·.trials)).flatMap Trial.news)) st' ∧
      os.map (·.path) = gs.map (·.path) ∧ IsSurvey s found os := by
  induction gs generalizing found st with
  | nil => exact ⟨[], st, Runs.pure found st, rfl, .nil s found⟩
  | cons g rest ih =>
    obtain ⟨hg, hrest⟩ := List.forall_mem_cons.mp hgs
    have hnavigate := Runs.noting (ScriptCall.navigate (Url.probeAddress target g.path))
      (rt.navigate (Url.probeAddress target g.path)) st
    generalize (rt.navigate (Url.probeAddress target g.path)).run st = out at hnavigate
    obtain ⟨answer, st₁⟩ := out
    rw [runGroups]
    cases answer with
    | error e =>
      obtain ⟨os, st', hrun, hpaths, hsurvey⟩ := ih hrest found st₁
      refine ⟨⟨g.path, .error e, []⟩ :: os, st', ?_, congrArg (g.path :: ·) hpaths, hsurvey.cons_closed g.path e⟩
      rw [List.flatMap_cons]
      exact hnavigate.bind hrun
    | ok opened =>
      obtain ⟨ts, st₂, htrials, hpage⟩ := runs_runTechnologies rt (Store.nodup_technologies hg) found st₁
      obtain ⟨os, st', hrun, hpaths, hsurvey⟩ := ih hrest (found.updateAll (ts.flatMap Trial.news)) st₂
      rw [Store.declared_technologies hg] at hpage
      refine ⟨⟨g.path, .ok (), ts⟩ :: os, st', ?_, congrArg (g.path :: ·) hpaths, hsurvey.cons_opened hpage⟩
      rw [List.flatMap_cons, List.flatMap_cons, List.flatMap_append, Detections.updateAll_append]
      exact hnavigate.bind (htrials.bind hrun)

/-- Augmenting makes a survey of the paths of a store. -/
theorem runs_augment (rt : ScriptRuntime (StateM σ)) (target : String) (s : Store) (found : Detections) (st : σ) :
    ∃ os st', Runs (rt.noting.augment target s found) st (os.flatMap (Opening.calls target))
        (found.updateAll ((os.flatMap (·.trials)).flatMap Trial.news)) st' ∧
      os.map (·.path) = s.scriptGroups.map (·.path) ∧ IsSurvey s found os :=
  runs_runGroups rt target s (fun _ hg => hg) found st

end ScriptRuntime

/-! ## The order of calls -/

theorem Trial.opens?_of_mem_calls {t : Trial} {c : ScriptCall} (hc : c ∈ t.calls) : c.opens? = none := by
  unfold calls at hc
  rcases List.mem_append.mp hc with hc | hc <;> obtain ⟨answer, -, rfl⟩ := List.mem_map.mp hc <;> rfl

/-- An opening opens its page, and nothing else. -/
theorem Opening.filterMap_opens?_calls (target : String) (o : Opening) :
    (o.calls target).filterMap ScriptCall.opens? = [Url.probeAddress target o.path] := by
  have htrials : (o.trials.flatMap Trial.calls).filterMap ScriptCall.opens? = [] := by
    refine List.filterMap_eq_nil_iff.mpr fun c hc => ?_
    obtain ⟨t, -, hc⟩ := List.mem_flatMap.mp hc
    exact Trial.opens?_of_mem_calls hc
  show Url.probeAddress target o.path :: (o.trials.flatMap Trial.calls).filterMap ScriptCall.opens? = _
  rw [htrials]

namespace IsSurvey

variable {s : Store} {found : Detections} {os : List Opening}

/-- Trials are in the order of the names of their technologies. -/
theorem pairwise_names (h : IsSurvey s found os) {o : Opening} (ho : o ∈ os) :
    o.trials.Pairwise fun t u => Utf8.encode t.name < Utf8.encode u.name ∨ t.name = u.name := by
  have hdeclared := s.pairwise_declaredScripts.sublist ((h.order o ho).trans List.filter_sublist)
  exact List.pairwise_map.mp hdeclared

/-- A trial is of a declared probe of the path. -/
theorem declared_of_mem (h : IsSurvey s found os) {o : Opening} (ho : o ∈ os) {t : Trial} (ht : t ∈ o.trials) :
    (∃ f, s.get? t.name = some f ∧ t.probe ∈ f.scripts) ∧ t.probe.path = o.path := by
  have hmem := (h.order o ho).subset (List.mem_map_of_mem ht)
  obtain ⟨hdeclared, hpath⟩ := List.mem_filter.mp hmem
  exact ⟨Store.mem_declaredScripts_iff.mp hdeclared, of_decide_eq_true hpath⟩

/-- A page with trials did open. -/
theorem answer_of_mem (h : IsSurvey s found os) {o : Opening} (ho : o ∈ os) {t : Trial} (ht : t ∈ o.trials) :
    o.answer = .ok () := by
  cases hanswer : o.answer with
  | ok opened => rfl
  | error e =>
    rw [h.closed o ho e hanswer] at ht
    cases ht

end IsSurvey

namespace ScriptRuntime

/-- Whatever the runtime answers, its calls are those of a survey: each path that a script probe names is opened once, in
ascending order, and there is no other way to open a page; behind an opening come the trials on its page, technology by
technology; and each trial is due for what was found at its moment. -/
theorem augment_calls (rt : ScriptRuntime (StateM σ)) (target : String) (s : Store) (found : Detections) (st : σ) :
    ∃ (found' : Detections) (calls : List ScriptCall) (st' : σ) (os : List Opening),
      ((rt.noting.augment target s found).run []).run st = ((found', calls), st') ∧
      calls = os.flatMap (Opening.calls target) ∧
      calls.filterMap ScriptCall.opens? = os.map (fun o => Url.probeAddress target o.path) ∧
      (os.Pairwise fun o p => Utf8.encode o.path < Utf8.encode p.path) ∧
      (∀ path, (∃ o ∈ os, o.path = path) ↔ ∃ d ∈ s.declaredScripts, d.2.path = path) ∧
      (∀ o ∈ os, ∀ e, o.answer = .error e → o.trials = []) ∧
      (∀ o ∈ os, (o.trials.map Trial.asked).Sublist (s.declaredScripts.filter fun d => d.2.path = o.path) ∧
        o.trials.Pairwise fun t u => Utf8.encode t.name < Utf8.encode u.name ∨ t.name = u.name) ∧
      (∀ before t after, os.flatMap (·.trials) = before ++ t :: after →
        t.IsDue (found.updateAll (before.flatMap Trial.news))) ∧
      (∀ o ∈ os, o.trials.Pairwise fun t u => t.finds → u.name ≠ t.name) ∧
      found' = found.updateAll ((os.flatMap (·.trials)).flatMap Trial.news) := by
  obtain ⟨os, st', hrun, hpaths, hsurvey⟩ := runs_augment rt target s found st
  have hopens : (os.flatMap (Opening.calls target)).filterMap ScriptCall.opens? =
      os.map fun o => Url.probeAddress target o.path := by
    rw [List.filterMap_flatMap]
    simp only [Opening.filterMap_opens?_calls]
    exact List.map_eq_flatMap.symm
  have hascending : (os.map (·.path)).Pairwise fun a b => Utf8.encode a < Utf8.encode b := by
    rw [hpaths]
    have hgroups := s.classifies_scriptGroups.ascending
    rwa [List.pairwise_map] at hgroups ⊢
  rw [List.pairwise_map] at hascending
  have hmem (path : String) : (∃ o ∈ os, o.path = path) ↔ ∃ d ∈ s.declaredScripts, d.2.path = path := by
    rw [← Store.mem_scriptPaths_iff, ← hpaths, List.mem_map]
  refine ⟨_, _, st', os, hrun.run_nil, rfl, hopens, hascending, hmem, hsurvey.closed, ?_, ?_,
    hsurvey.settled, rfl⟩
  · exact fun o ho => ⟨hsurvey.order o ho, hsurvey.pairwise_names ho⟩
  · intro before t after hsplit
    have hjustified := hsurvey.justified
    rw [hsplit] at hjustified
    exact hjustified.isDue before

end ScriptRuntime

/-! ## What is found -/

namespace Detections

variable {d e : Detections} {name version : String}

/-- A version that is known after updates was known before, or was supplied. -/
theorem mem_of_get?_updateAll {es : List (String × String)} (h : (d.updateAll es).get? name = some version)
    (hne : version ≠ "") : d.get? name = some version ∨ (name, version) ∈ es := by
  rw [get?_updateAll] at h
  have hversions : (d.get? name).toList ++ (es.filter fun e => e.1 = name).map (·.2) ≠ [] := fun hnil => by
    rw [hnil] at h
    cases h
  rw [best_of_ne_nil hversions] at h
  have hmem : version ∈ (d.get? name).toList ++ (es.filter fun e => e.1 = name).map (·.2) := by
    generalize hfind : List.find? _ _ = first at h
    cases first with
    | none => exact absurd (Option.some.inj h).symm hne
    | some first =>
      obtain rfl : first = version := Option.some.inj h
      exact List.mem_of_find?_eq_some hfind
  rcases List.mem_append.mp hmem with hmem | hmem
  · exact .inl (Option.mem_toList.mp hmem)
  · obtain ⟨e, he, rfl⟩ := List.mem_map.mp hmem
    obtain ⟨he, hname⟩ := List.mem_filter.mp he
    exact .inr (of_decide_eq_true hname ▸ he)

/-- Merging detections with others that keep them gives the others. -/
theorem Keeps.merge_eq (h : Keeps d e) : d.merge e = e := by
  refine Dict.ext_get? fun name => ?_
  rw [get?_merge]
  cases hd : d.get? name with
  | none => exact best_toList (e.get? name)
  | some version =>
    obtain ⟨version', he, hsame⟩ := h name version hd
    rw [he, Option.toList_some, Option.toList_some, List.singleton_append]
    by_cases hne : version = ""
    · by_cases hne' : version' = "" <;> simp [best, hne, hne']
    · rw [best_cons_of_ne hne, hsame hne]

end Detections

/-- A technology that was not found before the trials is detected by one of them, if it is found. -/
theorem Justified.exists_detected {found : Detections} {ts : List Trial} {name : String} (h : Justified found ts)
    (hnot : ¬found.contains name) (hfound : (found.updateAll (ts.flatMap Trial.news)).contains name) :
    ∃ t ∈ ts, t.name = name ∧ t.detection = some (.ok true) := by
  induction h with
  | nil => exact absurd hfound hnot
  | @cons found t ts hdue _ ih =>
    rw [List.flatMap_cons, Detections.updateAll_append] at hfound
    by_cases hname : (found.updateAll t.news).contains name
    · by_cases hfinds : t.finds = true
      · have heq : t.name = name := by
          rw [Trial.news_of_finds hfinds] at hname
          by_contra hne
          have hget := Detections.get?_update_eq_best found t.name t.text name
          rw [if_neg hne] at hget
          refine hnot ?_
          rw [Dict.contains, ← hget]
          exact hname
        exact ⟨t, List.mem_cons_self, heq, Trial.detection_of_detected (hdue.detected_of_finds hfinds (heq ▸ hnot))⟩
      · rw [Trial.news_of_not_finds hfinds] at hname
        exact absurd hname hnot
    · obtain ⟨u, hu, hfacts⟩ := ih hname hfound
      exact ⟨u, List.mem_cons_of_mem t hu, hfacts⟩

/-- A probe that a store declares for a technology was tried on a page that did open. -/
structure Opening.Tries (s : Store) (o : Opening) (t : Trial) : Prop where
  mem : t ∈ o.trials
  opened : o.answer = .ok ()
  declared : ∃ f, s.get? t.name = some f ∧ t.probe ∈ f.scripts
  path : t.probe.path = o.path

theorem IsSurvey.exists_tries {s : Store} {found : Detections} {os : List Opening} (h : IsSurvey s found os)
    {t : Trial} (ht : t ∈ os.flatMap (·.trials)) : ∃ o ∈ os, o.Tries s t := by
  obtain ⟨o, ho, ht⟩ := List.mem_flatMap.mp ht
  obtain ⟨hdeclared, hpath⟩ := h.declared_of_mem ho ht
  exact ⟨o, ho, ht, h.answer_of_mem ho ht, hdeclared, hpath⟩

namespace ScriptRuntime

/-- Whatever the runtime answers, there are detections in the end. They keep all that was found before; a technology that
is found anew was detected by a detection script of its own, on a page that did open, and a version that is known anew
was told by a version script of its own; nothing else is different. So merging them with what was found before gives
them again. -/
theorem augment_adds (rt : ScriptRuntime (StateM σ)) (target : String) (s : Store) (found : Detections) (st : σ) :
    ∃ (found' : Detections) (calls : List ScriptCall) (st' : σ) (os : List Opening),
      ((rt.noting.augment target s found).run []).run st = ((found', calls), st') ∧
      calls = os.flatMap (Opening.calls target) ∧
      Detections.Keeps found found' ∧
      (∀ name, ¬found.contains name → found'.contains name →
        ∃ o ∈ os, ∃ t, o.Tries s t ∧ t.name = name ∧ t.detection = some (.ok true)) ∧
      (∀ name version, found'.get? name = some version → version ≠ "" → found.get? name ≠ some version →
        ∃ o ∈ os, ∃ t, o.Tries s t ∧ t.name = name ∧ t.version = some (.ok version)) ∧
      (∀ name, found'.get? name ≠ found.get? name → ¬found.contains name ∨
        found.get? name = some "" ∧ ∃ version ≠ "", found'.get? name = some version) ∧
      found.merge found' = found' := by
  obtain ⟨os, st', hrun, -, hsurvey⟩ := runs_augment rt target s found st
  have hkeeps := Detections.keeps_updateAll found ((os.flatMap (·.trials)).flatMap Trial.news)
  refine ⟨_, _, st', os, hrun.run_nil, rfl, hkeeps, ?_, ?_, ?_, hkeeps.merge_eq⟩
  · intro name hnot hname
    obtain ⟨t, ht, hfacts⟩ := hsurvey.justified.exists_detected hnot hname
    obtain ⟨o, ho, htries⟩ := hsurvey.exists_tries ht
    exact ⟨o, ho, t, htries, hfacts⟩
  · intro name version hversion hne hnew
    have hmem := (Detections.mem_of_get?_updateAll hversion hne).resolve_left hnew
    obtain ⟨t, ht, hmem⟩ := List.mem_flatMap.mp hmem
    have hfinds : t.finds = true := by
      by_contra hnot
      rw [Trial.news_of_not_finds hnot] at hmem
      cases hmem
    rw [Trial.news_of_finds hfinds, List.mem_singleton] at hmem
    obtain ⟨rfl, rfl⟩ := Prod.mk.inj hmem
    obtain ⟨o, ho, htries⟩ := hsurvey.exists_tries ht
    exact ⟨o, ho, t, htries, rfl, Trial.version_of_text hne⟩
  · intro name hchanged
    by_cases hname : found.contains name
    · obtain ⟨version, hversion⟩ := Option.isSome_iff_exists.mp hname
      obtain ⟨version', hversion', hsame⟩ := hkeeps name version hversion
      have hdiffers : version' ≠ version := fun heq => hchanged (by rw [hversion', hversion, heq])
      have hempty : version = "" := by
        by_contra hne
        exact hdiffers (hsame hne)
      subst hempty
      exact .inr ⟨hversion, version', hdiffers, hversion'⟩
    · exact .inl hname

end ScriptRuntime
end SiteProbe
