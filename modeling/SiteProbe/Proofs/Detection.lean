import SiteProbe.Proofs.Host
import SiteProbe.Proofs.Visits

/-!
# What is detected on pages

The technologies that a detector finds by the pages alone, as a description of the pages that it gets
(`detectHttp_technologies`): each probe that matches a page of its group shows its technology, a group shows the version
of the first one that does, and of all groups the first version that is not empty counts (`get?_updateAll_matchesOn`).
-/

namespace SiteProbe

/-! ## Probes and groups -/

namespace Probe

/-- Whether the query of a probe matches a page. -/
def matchesOn (p : Probe) (page : Page) : Bool := (p.detect.outcome page).matched

/-- The version that goes with a match: the one of the query, or else what the version rules find. -/
def versionOn (p : Probe) (page : Page) : String :=
  if (p.detect.outcome page).version ≠ "" then (p.detect.outcome page).version
  else (VersionRule.firstVersion? page p.versionRules).getD ""

theorem matched_outcome (p : Probe) (page : Page) : (p.outcome page).matched = p.matchesOn page := by
  unfold outcome matchesOn
  dsimp only
  split
  · rename_i h
    simp only [Bool.and_eq_true] at h
    exact h.1.symm
  · rfl

theorem version_outcome {p : Probe} {page : Page} (h : p.matchesOn page) :
    (p.outcome page).version = p.versionOn page := by
  have hmatched : (p.detect.outcome page).matched = true := h
  unfold outcome versionOn
  by_cases hversion : (p.detect.outcome page).version = "" <;> simp [hmatched, hversion, Outcome.hit]

end Probe

namespace Group

/-- The version of the first probe that matches. -/
theorem firstMatch?_eq (page : Page) (probes : List Probe) :
    firstMatch? page probes = (probes.find? (·.matchesOn page)).map (·.versionOn page) := by
  unfold firstMatch?
  induction probes with
  | nil => rfl
  | cons p rest ih =>
    rw [List.findSome?_cons, List.find?_cons, p.matched_outcome]
    cases hp : p.matchesOn page with
    | true => simp [Probe.version_outcome hp]
    | false => simpa using ih

/-- What is shown under a name is what the technologies of that name show. -/
theorem filter_shown (ts : List (String × List Probe)) (page : Page) (name : String) :
    ((ts.filterMap fun t => (firstMatch? page t.2).map fun version => (t.1, version)).filter fun e => e.1 = name).map
      (·.2) = (ts.filter fun t => t.1 = name).filterMap fun t => firstMatch? page t.2 := by
  induction ts with
  | nil => rfl
  | cons t rest ih =>
    rw [List.filterMap_cons, List.filter_cons]
    cases hmatch : firstMatch? page t.2 <;> by_cases hname : t.1 = name <;> simp [hmatch, hname, ih]

/-- What a group of a store shows of a technology on its page: the version of the first probe that matches. -/
theorem filter_matchesOn {s : Store} {g : Group} (hg : g ∈ s.groups) (page : Page) (name : String) :
    ((g.matchesOn page).filter fun e => e.1 = name).map (·.2) =
      (((s.probesAt g.key name).find? (·.matchesOn page)).map (·.versionOn page)).toList := by
  refine (filter_shown g.technologies page name).trans ?_
  rw [Store.technologies_of_mem_groups hg, Store.filter_share, ← firstMatch?_eq]
  cases s.probesAt g.key name with
  | nil => rfl
  | cons p rest =>
    show [(name, p :: rest)].filterMap (fun t => firstMatch? page t.2) = _
    rw [List.filterMap_cons]
    cases firstMatch? page (p :: rest) <;> rfl

end Group

namespace Store

/-- The versions that groups show of a technology on their pages, each by the first probe that matches. -/
def versionsOn (s : Store) (kept : List (Group × Page)) (name : String) : List String :=
  kept.filterMap fun k => ((s.probesAt k.1.key name).find? (·.matchesOn k.2)).map (·.versionOn k.2)

/-- A group shows a version if a probe matches. -/
theorem versionsOn_ne_nil_iff {s : Store} {kept : List (Group × Page)} {name : String} :
    s.versionsOn kept name ≠ [] ↔ ∃ k ∈ kept, ∃ p ∈ s.probesAt k.1.key name, p.matchesOn k.2 := by
  unfold versionsOn
  rw [ne_eq, List.filterMap_eq_nil_iff]
  simp

/-- Of what groups show of a technology, the first version that is not empty counts. -/
theorem get?_updateAll_matchesOn {s : Store} {kept : List (Group × Page)} (h : ∀ k ∈ kept, k.1 ∈ s.groups)
    (name : String) : (Findings.empty.technologies.updateAll (kept.flatMap fun k => k.1.matchesOn k.2)).get?
      name = Detections.best (s.versionsOn kept name) := by
  rw [Detections.get?_updateAll, Findings.empty, Dict.get?_empty, Option.toList_none, List.nil_append,
    List.filter_flatMap, List.map_flatMap]
  congr 1
  induction kept with
  | nil => rfl
  | cons k rest ih =>
    rw [List.flatMap_cons, ih fun k' hk' => h k' (List.mem_cons_of_mem k hk'),
      Group.filter_matchesOn (h k List.mem_cons_self)]
    unfold versionsOn
    rw [List.filterMap_cons]
    cases (s.probesAt k.1.key name).find? (·.matchesOn k.2) <;> rfl

end Store

/-! ## Runs -/

namespace Detector

variable {σ : Type}

theorem run_visit_cons (d : Detector) (w : World (StateM σ)) (target : String) (g : Group) (rest : List Group) (s : σ) :
    ((d.visit w target (g :: rest)).run s).1 = (g, ((d.fetchGroup w target g).run s).1) ::
      if Visit.isFatal (g, ((d.fetchGroup w target g).run s).1) then []
      else ((d.visit w target rest).run ((d.fetchGroup w target g).run s).2).1 := by
  rw [visit, StateT.run_bind]
  generalize (d.fetchGroup w target g).run s = out
  show ((if Visit.isFatal (g, out.1) then _ else _ : StateM σ (List Visit)).run out.2).1 = _
  split <;> rfl

theorem run_mapM_cons {α β : Type} (x : α → StateM σ β) (a : α) (rest : List α) (s : σ) :
    (((a :: rest).mapM x).run s).1 = ((x a).run s).1 :: ((rest.mapM x).run ((x a).run s).2).1 := by
  rw [List.mapM_cons]
  rfl

/-- The pages that are kept are those of the groups before the first one that shows that the host cannot be reached,
whatever the groups behind it would have been answered. -/
theorem kept_run_visit (d : Detector) (w : World (StateM σ)) (target : String) (gs : List Group) (s : σ) :
    (((d.visit w target gs).run s).1).filterMap Visit.kept? =
      ((gs.zip ((gs.mapM (d.fetchGroup w target)).run s).1).takeWhile fun v => !Visit.isFatal v).filterMap
        Visit.kept? := by
  induction gs generalizing s with
  | nil => rfl
  | cons g rest ih =>
    rw [run_visit_cons, run_mapM_cons, List.zip_cons_cons, List.takeWhile_cons]
    generalize (d.fetchGroup w target g).run s = out
    by_cases hfatal : Visit.isFatal (g, out.1) = true
    · rw [if_pos hfatal, hfatal, List.filterMap_cons_none (Visit.kept?_of_isFatal hfatal)]
      rfl
    · rw [if_neg hfatal, Bool.eq_false_iff.mpr hfatal, List.filterMap_cons, ih]
      exact List.filterMap_cons.symm

/-- A URL that is not accepted is the same error for all detectors. -/
theorem exists_error_of_not_accepted {m : Type → Type} [Monad m] {url : String}
    (h : ¬∃ target, Url.parse url = .ok target ∧ target.isHttp) :
    ∃ e, ∀ (d : Detector) (w : World m) augmenter, d.detect w augmenter url = pure (.error e) := by
  cases hurl : Url.parse url with
  | error e =>
    refine ⟨.url e, fun d w augmenter => ?_⟩
    rw [detect, hurl]
  | ok target =>
    have hhttp : target.isHttp = false := by
      rw [← Bool.not_eq_true]
      exact fun hhttp => h ⟨target, hurl, hhttp⟩
    refine ⟨.invalidInput ("unsupported scheme in " ++ url), fun d w augmenter => ?_⟩
    rw [detect, hurl]
    simp only [hhttp, Bool.not_false, if_true]

/-- Detection by the pages alone is made of the visits. -/
theorem detectHttp_eq {m : Type → Type} [Monad m] [LawfulMonad m] (d : Detector) (w : World m) {url : String}
    {target : Url} (hurl : Url.parse url = .ok target) (hhttp : target.isHttp) :
    d.detectHttp w url = (fun vs => .ok { Findings.empty.after d.store.groups vs with
      technologies := (Findings.empty.after d.store.groups vs).technologies.close d.store }) <$>
        d.visit w url d.store.groups := by
  unfold detectHttp detect
  rw [hurl]
  simp only [hhttp, Bool.not_true, Bool.false_eq_true, if_false, probe_eq, map_pure, bind_pure_comp, Functor.map_map]

/-- The pages that count: those of the groups, asked for in order, before the first one that shows that the host cannot
be reached. -/
def keptPages (d : Detector) (w : World (StateM σ)) (target : String) (s : σ) : List (Group × Page) :=
  let answers := ((d.store.groups.mapM (d.fetchGroup w target)).run s).1
  ((d.store.groups.zip answers).takeWhile fun v => !Visit.isFatal v).filterMap Visit.kept?

theorem mem_groups_of_mem_keptPages {d : Detector} {w : World (StateM σ)} {target : String} {s : σ}
    {k : Group × Page} (h : k ∈ d.keptPages w target s) : k.1 ∈ d.store.groups := by
  obtain ⟨⟨g, answer⟩, hv, hk⟩ := List.mem_filterMap.mp h
  have hg := (List.of_mem_zip ((List.takeWhile_sublist _).subset hv)).1
  cases answer with
  | ok page =>
    cases hk
    exact hg
  | error e => cases hk

/-- By the pages alone, a technology is found if one of its probes matches the page of its group, with the first version
that is not empty, and what is found implies the rest. -/
theorem detectHttp_technologies (d : Detector) (w : World (StateM σ)) {url : String} {target : Url}
    (hurl : Url.parse url = .ok target) (hhttp : target.isHttp) (s : σ) :
    ∃ found f, ((d.detectHttp w url).run s).1 = .ok f ∧
      (∀ name, found.contains name ↔
        ∃ k ∈ d.keptPages w url s, ∃ p ∈ d.store.probesAt k.1.key name, p.matchesOn k.2) ∧
      (∀ name version, found.get? name = some version →
        version = ((d.store.versionsOn (d.keptPages w url s) name).find? (· ≠ "")).getD "") ∧
      Detections.IsClosure d.store found f.technologies := by
  let f := Findings.empty.after d.store.groups ((d.visit w url d.store.groups).run s).1
  have hget (name : String) :
      f.technologies.get? name = Detections.best (d.store.versionsOn (d.keptPages w url s) name) := by
    rw [Findings.technologies_after, kept_run_visit]
    exact Store.get?_updateAll_matchesOn (fun k hk => mem_groups_of_mem_keptPages hk) name
  refine ⟨f.technologies, { f with technologies := f.technologies.close d.store }, ?_, fun name => ?_,
    fun name version hversion => ?_, Detections.close_isClosure d.store f.technologies⟩
  · rw [detectHttp_eq d w hurl hhttp]
    rfl
  · rw [Dict.contains, hget, Option.isSome_iff_ne_none, ← Store.versionsOn_ne_nil_iff, ne_eq, ne_eq,
      Detections.best_eq_none_iff]
  · rw [hget] at hversion
    have hne : d.store.versionsOn (d.keptPages w url s) name ≠ [] := fun hnil => by
      rw [hnil] at hversion
      cases hversion
    rw [Detections.best_of_ne_nil hne] at hversion
    exact (Option.some.inj hversion).symm

/-- A detector for one technology, which is looked for at two paths and implies another one. -/
def twoPaths : Detector where
  store := .ofList [("Tool", {
    categories := []
    implies := ["Base"]
    paths := [⟨"/", none, .field .body [.exists true], []⟩,
      ⟨"/v", none, .field .body [.exists true], [⟨.body, .compile "v(2)"⟩]⟩]
    scripts := []
    description := none
    website := none
    icon := none
    cpe := none })]
  config := .standard

/-- A world where the first call fails and every later one gives a page. -/
def lateWorld : World (StateM Nat) where
  fetch url _ := do
    let calls ← get
    set (calls + 1)
    if calls = 0 then return .error (.timeout "late")
    else return .ok ⟨if url = "http://a.test/v" then "v2" else "home", 200, []⟩
  pause _ := return ()

/-- The version is found at the second path, as the first one shows none. -/
theorem detectHttp_technologies_twoPaths : ∃ f, ((twoPaths.detectHttp lateWorld "http://a.test/").run 0).1 = .ok f ∧
    f.technologies.get? "Tool" = some "2" ∧ f.technologies.get? "Base" = some "" := by
  obtain ⟨found, f, hrun, hnames, hversions, hclosure⟩ :=
    detectHttp_technologies twoPaths lateWorld Url.parse_sampleRoot (by decide) 0
  have htool : found.contains "Tool" := (hnames "Tool").mpr (by decide +kernel)
  have hbase : ¬found.contains "Base" := fun h => absurd ((hnames "Base").mp h) (by decide +kernel)
  refine ⟨f, hrun, ?_, hclosure.added "Base" ?_ hbase⟩
  · obtain ⟨version, hversion⟩ := Option.isSome_iff_exists.mp htool
    rw [hclosure.kept "Tool" htool, hversion, hversions "Tool" version hversion]
    decide +kernel
  · have himplies : "Base" ∈ twoPaths.store.impliesOf "Tool" := by decide +kernel
    exact (hclosure.contains_iff "Base").mpr ⟨"Tool", htool, .single himplies⟩
end Detector
end SiteProbe
