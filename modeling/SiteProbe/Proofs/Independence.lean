import Mathlib.Data.List.Sort
import SiteProbe.Proofs.Classification
import SiteProbe.Proofs.Detection

/-!
# Technologies that do not disturb each other

Where the same request always gets the same answer, what the pages show of a technology depends on its own fingerprint
alone (`Store.versionsAt_congr`), although the groups that its probes are in, their order and the requests that stand
for them depend on all fingerprints of the store. A fingerprint more makes no difference to what is found without it,
apart from what the new technology implies (`Detector.detectHttp_insert`).
-/

namespace SiteProbe

/-! ## Probes of a technology -/

namespace Store

variable {s s' : Store} {g : Group} {k : GroupKey} {name : String} {p : Probe}

theorem mem_probesAt_iff : p ∈ s.probesAt k name ↔ (name, p) ∈ s.declaredProbes ∧ p.key = k := by
  unfold probesAt
  rw [List.mem_filter, decide_eq_true_eq, mem_declaredProbes_iff]
  cases s.get? name <;> simp

/-- A key is the one of a group if some technology has a probe with it. -/
theorem key_mem_groups_iff : k ∈ s.groups.map Group.key ↔ ∃ name, s.probesAt k name ≠ [] := by
  constructor
  · intro hk
    obtain ⟨g, hg, rfl⟩ := List.mem_map.mp hk
    obtain ⟨name, p, hholds, -⟩ := exists_first hg
    have hdeclared := mem_declaredProbes_of_holds hg hholds
    exact ⟨name, List.ne_nil_of_mem (mem_probesAt_iff.mpr ⟨hdeclared, key_of_holds hg hholds⟩)⟩
  · rintro ⟨name, hne⟩
    obtain ⟨p, hp⟩ := List.exists_mem_of_ne_nil _ hne
    obtain ⟨hdeclared, rfl⟩ := mem_probesAt_iff.mp hp
    obtain ⟨f, hf, hpf⟩ := mem_declaredProbes_iff.mp hdeclared
    obtain ⟨g, hg, hholds⟩ := exists_group hf hpf
    exact List.mem_map.mpr ⟨g, hg, (key_of_holds hg hholds).symm⟩

/-- The keys of the groups that a technology has probes in. -/
def keysOf (s : Store) (name : String) : List GroupKey :=
  (s.groups.map Group.key).filter fun k => !(s.probesAt k name).isEmpty

theorem mem_keysOf_iff : k ∈ s.keysOf name ↔ s.probesAt k name ≠ [] := by
  unfold keysOf
  rw [List.mem_filter, key_mem_groups_iff]
  simp only [Bool.not_eq_true', List.isEmpty_eq_false_iff]
  exact and_iff_right_of_imp fun hne => ⟨name, hne⟩

theorem probesAt_congr (h : s.get? name = s'.get? name) (k : GroupKey) : s.probesAt k name = s'.probesAt k name := by
  rw [probesAt, probesAt, h]

/-- A technology has probes in groups with the same keys, in the same order, wherever its fingerprint is the same. -/
theorem keysOf_congr (h : s.get? name = s'.get? name) : s.keysOf name = s'.keysOf name := by
  have : Std.Irrefl fun a b : GroupKey => compare a b = .lt := ⟨fun a => by simp⟩
  have : Std.Antisymm fun a b : GroupKey => compare a b = .lt :=
    ⟨fun a b hab hba => absurd hba (by simp [Std.OrientedCmp.gt_of_lt hab])⟩
  have hsorted (s : Store) : (s.keysOf name).Pairwise fun a b => compare a b = .lt :=
    (List.pairwise_map.mpr s.pairwise_groups).filter _
  refine (hsorted s).eq_of_mem_iff (hsorted s') fun k => ?_
  rw [mem_keysOf_iff, mem_keysOf_iff, probesAt_congr h]

/-- The versions that a technology shows on the pages of its keys, each by the first probe that matches. -/
def versionsAt (s : Store) (page : GroupKey → Option Page) (name : String) : List String :=
  (s.keysOf name).filterMap fun k =>
    (page k).bind fun page => ((s.probesAt k name).find? (·.matchesOn page)).map (·.versionOn page)

/-- What a technology shows depends on its own fingerprint alone. -/
theorem versionsAt_congr (h : s.get? name = s'.get? name) (page : GroupKey → Option Page) :
    s.versionsAt page name = s'.versionsAt page name := by
  unfold versionsAt
  rw [keysOf_congr h]
  refine List.filterMap_congr fun k _ => ?_
  rw [probesAt_congr h]

/-- What groups show on the pages of their keys is what their technologies show there. -/
theorem versionsOn_eq_versionsAt (s : Store) (result : GroupKey → Except Error Page) (name : String) :
    s.versionsOn ((s.groups.map fun g => (g, result g.key)).filterMap Visit.kept?) name =
      s.versionsAt (fun k => (result k).toOption) name := by
  unfold versionsOn versionsAt keysOf
  rw [List.filterMap_filterMap, List.filterMap_map, List.filterMap_filter, List.filterMap_map]
  refine List.filterMap_congr fun g _ => ?_
  simp only [Function.comp_apply, Visit.kept?]
  cases result g.key with
  | error e => simp [Except.toOption]
  | ok page => cases hprobes : s.probesAt g.key name <;> simp [Except.toOption, hprobes]

end Store

/-! ## One fingerprint more -/

namespace Store

variable {s : Store} {u a b : String} {f : Fingerprint}

theorem implies_insert : Implies (s.insert u f) a b ↔ if a = u then b ∈ f.implies else s.Implies a b := by
  unfold Implies impliesOf
  rw [Dict.get?_insert]
  by_cases h : a = u <;> simp [h]

theorem not_implies (hu : s.get? u = none) : ¬s.Implies u b := by
  unfold Implies impliesOf
  rw [hu]
  exact List.not_mem_nil

/-- What is implied without a fingerprint is implied with it. -/
theorem reaches_insert (hu : s.get? u = none) (h : Relation.ReflTransGen s.Implies a b) :
    Relation.ReflTransGen (Implies (s.insert u f)) a b := by
  refine Relation.ReflTransGen.mono (fun c c' himplies => ?_) _ _ h
  have hc : c ≠ u := fun heq => not_implies hu (heq ▸ himplies)
  rw [implies_insert, if_neg hc]
  exact himplies

/-- What is implied with a fingerprint is implied without it, or by its technology. -/
theorem reaches_of_insert (h : Relation.ReflTransGen (Implies (s.insert u f)) a b) :
    Relation.ReflTransGen s.Implies a b ∨ Relation.ReflTransGen (Implies (s.insert u f)) u b := by
  induction h with
  | refl => exact .inl .refl
  | @tail c b _ himplies ih =>
    rcases ih with hold | hnew
    · by_cases hc : c = u
      · exact .inr (.single (hc ▸ himplies))
      · rw [implies_insert, if_neg hc] at himplies
        exact .inl (hold.tail himplies)
    · exact .inr (hnew.tail himplies)

end Store

namespace Detections

variable {s : Store} {d d' : Detections} {u name : String} {f : Fingerprint}

/-- Whatever the new technology is found with, the closure keeps all others as they are. -/
theorem get?_close_insert (hu : s.get? u = none) (hsame : ∀ name, name ≠ u → d'.get? name = d.get? name)
    (hname : name ≠ u) (h : (d.close s).contains name) :
    (d'.close (s.insert u f)).get? name = (d.close s).get? name := by
  have hclosure := close_isClosure s d
  have hclosure' := close_isClosure (s.insert u f) d'
  have hcontains {other : String} (hother : other ≠ u) : d'.contains other ↔ d.contains other := by
    rw [Dict.contains, hsame other hother, Dict.contains]
  by_cases hd : d.contains name
  · rw [hclosure.kept name hd, hclosure'.kept name ((hcontains hname).mpr hd), hsame name hname]
  · obtain ⟨start, hstart, hreach⟩ := (hclosure.contains_iff name).mp h
    have hne : start ≠ u := by
      rintro rfl
      rcases hreach.cases_head with heq | ⟨next, himplies, -⟩
      · exact hname heq.symm
      · exact Store.not_implies hu himplies
    have h' : (d'.close (s.insert u f)).contains name :=
      (hclosure'.contains_iff name).mpr ⟨start, (hcontains hne).mpr hstart, Store.reaches_insert hu hreach⟩
    rw [hclosure.added name h hd, hclosure'.added name h' (mt (hcontains hname).mp hd)]

/-- What the closure has more than before is implied by the new technology. -/
theorem reaches_of_mem_close_insert (hsame : ∀ name, name ≠ u → d'.get? name = d.get? name)
    (h : (d'.close (s.insert u f)).contains name) (hnot : ¬(d.close s).contains name) :
    Relation.ReflTransGen (Store.Implies (s.insert u f)) u name := by
  obtain ⟨start, hstart, hreach⟩ := ((close_isClosure _ d').contains_iff name).mp h
  by_cases hne : start = u
  · exact hne ▸ hreach
  · refine (Store.reaches_of_insert hreach).resolve_left fun hold => hnot ?_
    rw [Dict.contains, hsame start hne] at hstart
    exact ((close_isClosure s d).contains_iff name).mpr ⟨start, hstart, hold⟩

end Detections

/-! ## Fetchers that answer alike -/

variable {σ : Type}

/-- A fetcher answers by the URL and the shape of the request alone, whenever it is asked. -/
def World.Answers (w : World (StateM σ)) (answer : String → String → Except Error Page) : Prop :=
  ∀ url r s, ((w.fetch url r).run s).1 = answer url r.shapeKey

/-- An operation that always has the same result has it after retrying. -/
theorem run_retryFrom {α : Type} {policy : RetryPolicy} {pause : Duration → StateM σ Unit}
    {operation : UInt32 → StateM σ (Except Error α)} {r : Except Error α} (h : ∀ n s, ((operation n).run s).1 = r)
    (left : Nat) (n : UInt32) (s : σ) :
    ((retryFrom policy pause operation left n).run s).1 = finalResult policy.maxRetries r := by
  induction left generalizing n s with
  | zero =>
    rw [retryFrom, StateT.run_bind, ← h n s]
    generalize (operation n).run s = out
    obtain ⟨result, s'⟩ := out
    cases result <;> rfl
  | succ left ih =>
    have hresult := h n s
    rw [retryFrom, StateT.run_bind]
    generalize (operation n).run s = out at hresult
    obtain ⟨result, s'⟩ := out
    obtain rfl : result = r := hresult
    cases result with
    | ok a => rfl
    | error e => exact ih (n + 1) ((pause (policy.backoff n)).run s').2

namespace Detector

variable {d : Detector} {w : World (StateM σ)} {answer : String → String → Except Error Page} {target : String}

/-- What comes of asking for the page of a key. -/
def resultAt (d : Detector) (answer : String → String → Except Error Page) (target : String) (k : GroupKey) :
    Except Error Page :=
  finalResult d.config.retry.maxRetries (answer (Url.probeAddress target k.path) k.shape)

theorem run_fetchGroup (hw : w.Answers answer) (g : Group) (s : σ) :
    ((d.fetchGroup w target g).run s).1 = d.resultAt answer target g.key :=
  run_retryFrom (fun _ s => hw (Url.probeAddress target g.path) g.request s) _ _ s

/-- Where no answer is fatal, all groups are visited, with the results of their keys. -/
theorem run_visit (hw : w.Answers answer) (hreach : ∀ url shape e, answer url shape = .error e → e.isFatal = false)
    (gs : List Group) (s : σ) :
    ((d.visit w target gs).run s).1 = gs.map fun g => (g, d.resultAt answer target g.key) := by
  induction gs generalizing s with
  | nil => rfl
  | cons g rest ih =>
    have hgo : Visit.isFatal (g, d.resultAt answer target g.key) = false := by
      unfold resultAt
      cases hanswer : answer (Url.probeAddress target g.key.path) g.key.shape with
      | ok page => rfl
      | error e => exact hreach _ _ e hanswer
    rw [run_visit_cons, run_fetchGroup hw, hgo, ih]
    rfl

/-- What is found on a target before anything is implied. -/
def foundOn (d : Detector) (answer : String → String → Except Error Page) (target : String) : Findings :=
  Findings.empty.after d.store.groups (d.store.groups.map fun g => (g, d.resultAt answer target g.key))

theorem run_detectHttp (hw : w.Answers answer)
    (hreach : ∀ url shape e, answer url shape = .error e → e.isFatal = false) {url : String} {target : Url}
    (hurl : Url.parse url = .ok target) (hhttp : target.isHttp) (s : σ) : ((d.detectHttp w url).run s).1 = .ok
      { d.foundOn answer url with technologies := (d.foundOn answer url).technologies.close d.store } := by
  rw [detectHttp_eq d w hurl hhttp, foundOn, ← run_visit hw hreach d.store.groups s]
  rfl

/-- A technology is found with the first version that is not empty, of those that it shows. -/
theorem get?_foundOn (d : Detector) (answer : String → String → Except Error Page) (target name : String) :
    (d.foundOn answer target).technologies.get? name =
      Detections.best (d.store.versionsAt (fun k => (d.resultAt answer target k).toOption) name) := by
  rw [foundOn, Findings.technologies_after, Store.get?_updateAll_matchesOn (s := d.store),
    Store.versionsOn_eq_versionsAt]
  intro k hk
  obtain ⟨v, hv, hkept⟩ := List.mem_filterMap.mp hk
  obtain ⟨g, hg, rfl⟩ := List.mem_map.mp hv
  unfold Visit.kept? at hkept
  split at hkept
  · cases hkept
    exact hg
  · cases hkept

/-- A path fails if there is a group at it whose page cannot be had. -/
theorem mem_failedPaths_foundOn {path : String} : path ∈ (d.foundOn answer target).failedPaths ↔
    ∃ k ∈ d.store.groups.map Group.key, k.path = path ∧ ∃ e, d.resultAt answer target k = .error e := by
  have hlength : d.store.groups.drop (d.store.groups.map fun g => (g, d.resultAt answer target g.key)).length = [] := by
    rw [List.length_map, List.drop_length]
  rw [foundOn, Findings.failedPaths_after, hlength, List.map_nil, List.append_nil, List.filterMap_map,
    mem_foldl_addOnce]
  simp only [Findings.empty, List.not_mem_nil, false_or, List.mem_filterMap, Function.comp_apply, List.mem_map,
    exists_exists_and_eq_and]
  refine exists_congr fun g => and_congr_right fun _ => ?_
  unfold Visit.failedPath?
  show _ ↔ g.path = path ∧ _
  cases d.resultAt answer target g.key <;> simp

/-- Findings without a technology and findings with it: all others are kept as they are, those that are new are implied
by it, and all failed paths stay. -/
structure Undisturbed (s : Store) (u : String) (f f' : Findings) : Prop where
  kept : ∀ name, name ≠ u → f.technologies.contains name → f'.technologies.get? name = f.technologies.get? name
  implied : ∀ name, name ≠ u → f'.technologies.contains name → ¬f.technologies.contains name →
    Relation.ReflTransGen s.Implies u name
  failedPaths : ∀ path ∈ f.failedPaths, path ∈ f'.failedPaths

/-- The same detector with a fingerprint more. -/
def insert (d : Detector) (u : String) (f : Fingerprint) : Detector := { d with store := d.store.insert u f }

theorem key_mem_groups_insert {u : String} (hu : d.store.get? u = none) (f : Fingerprint) {k : GroupKey}
    (hk : k ∈ d.store.groups.map Group.key) : k ∈ (d.insert u f).store.groups.map Group.key := by
  obtain ⟨name, hne⟩ := Store.key_mem_groups_iff.mp hk
  have hname : name ≠ u := by
    rintro rfl
    rw [Store.probesAt, hu] at hne
    exact hne rfl
  have hsame : (d.insert u f).store.get? name = d.store.get? name := Dict.get?_insert_of_ne d.store f hname
  refine Store.key_mem_groups_iff.mpr ⟨name, ?_⟩
  rwa [Store.probesAt_congr hsame]

/-- A fetcher whose answers depend on the URL and the shape of the request alone, and never say that the host cannot be
reached: a technology that is added to the store does not disturb the detection of the others by the pages. Whether the
URL is accepted does not depend on the store. -/
theorem detectHttp_insert (d : Detector) {u : String} (f : Fingerprint) (hu : d.store.get? u = none)
    (w : World (StateM σ)) {answer : String → String → Except Error Page} (hw : w.Answers answer)
    (hreach : ∀ url shape e, answer url shape = .error e → e.isFatal = false) (url : String) (s s' : σ) :
    ((¬∃ target, Url.parse url = .ok target ∧ target.isHttp) → ∃ e,
      ((d.detectHttp w url).run s).1 = .error e ∧ (((d.insert u f).detectHttp w url).run s').1 = .error e) ∧
    ∀ target, Url.parse url = .ok target → target.isHttp → ∃ r r',
      ((d.detectHttp w url).run s).1 = .ok r ∧ (((d.insert u f).detectHttp w url).run s').1 = .ok r' ∧
        Undisturbed (d.insert u f).store u r r' := by
  constructor
  · intro hnot
    obtain ⟨e, he⟩ := exists_error_of_not_accepted (m := StateM σ) hnot
    refine ⟨e, ?_, ?_⟩
    · rw [detectHttp, he]
      rfl
    · rw [detectHttp, he]
      rfl
  · intro target hurl hhttp
    have hfound (name : String) (hname : name ≠ u) : ((d.insert u f).foundOn answer url).technologies.get? name =
        (d.foundOn answer url).technologies.get? name := by
      rw [get?_foundOn, get?_foundOn]
      exact congrArg Detections.best (Store.versionsAt_congr (Dict.get?_insert_of_ne d.store f hname) _)
    refine ⟨_, _, run_detectHttp hw hreach hurl hhttp s, run_detectHttp hw hreach hurl hhttp s', ?_, ?_, ?_⟩
    · exact fun name hname h => Detections.get?_close_insert hu hfound hname h
    · exact fun name _ h hnot => Detections.reaches_of_mem_close_insert hfound h hnot
    · intro path hpath
      obtain ⟨k, hk, hpath, hfailed⟩ := mem_failedPaths_foundOn.mp hpath
      exact mem_failedPaths_foundOn.mpr ⟨k, key_mem_groups_insert hu f hk, hpath, hfailed⟩

/-- What a site answers that has a start page and a page with a version. -/
def steadyAnswer (url : String) (_ : String) : Except Error Page :=
  if url = "http://a.test/" then .ok ⟨"home", 200, []⟩
  else if url = "http://a.test/v" then .ok ⟨"v2", 200, []⟩
  else .error (.timeout "slow")

/-- A world with this site that counts how often it is asked. -/
def steadyWorld : World (StateM Nat) where
  fetch url r := do
    modify (· + 1)
    return steadyAnswer url r.shapeKey
  pause _ := return ()

/-- A technology that comes before the other one: at the start page, by a request that is written in another way, and at
a page that does not answer. -/
def addon : Fingerprint :=
  { (default : Fingerprint) with
    implies := ["Extra"]
    paths := [⟨"/", some ⟨some " ", .empty, some .null⟩, .field .body [.exists true], []⟩, ⟨"/new", none, .never, []⟩] }

/-- The version that the other technology was found with stays, and what only the new one implies is new. -/
theorem detectHttp_insert_addon : ∃ r r', ((twoPaths.detectHttp steadyWorld "http://a.test/").run 0).1 = .ok r ∧
    (((twoPaths.insert "Addon" addon).detectHttp steadyWorld "http://a.test/").run 7).1 = .ok r' ∧
      r.technologies.get? "Tool" = some "2" ∧ r'.technologies.get? "Tool" = some "2" ∧
        Relation.ReflTransGen (twoPaths.insert "Addon" addon).store.Implies "Addon" "Extra" := by
  have hreach : ∀ url shape e, steadyAnswer url shape = .error e → e.isFatal = false := by
    intro url shape e he
    unfold steadyAnswer at he
    split at he
    · cases he
    · split at he
      · cases he
      · cases he
        rfl
  obtain ⟨-, haccepted⟩ := detectHttp_insert twoPaths addon (u := "Addon") (by decide +kernel) steadyWorld
    (show steadyWorld.Answers steadyAnswer from fun _ _ _ => rfl) hreach "http://a.test/" 0 7
  obtain ⟨r, r', hrun, hrun', hundisturbed⟩ := haccepted _ Url.parse_sampleRoot (by decide)
  have htool : (((twoPaths.detectHttp steadyWorld "http://a.test/").run 0).1.toOption.map fun r =>
      (r.technologies.get? "Tool", r.technologies.contains "Extra")) = some (some "2", false) := by
    decide +kernel
  have hextra : ((((twoPaths.insert "Addon" addon).detectHttp steadyWorld "http://a.test/").run 7).1.toOption.map
      fun r => r.technologies.contains "Extra") = some true := by
    decide +kernel
  rw [hrun] at htool
  rw [hrun'] at hextra
  obtain ⟨hversion, hbefore⟩ := Prod.mk.inj (Option.some.inj htool)
  refine ⟨r, r', hrun, hrun', hversion, ?_, ?_⟩
  · rw [hundisturbed.kept "Tool" (by decide) (by rw [Dict.contains, hversion]; rfl), hversion]
  · exact hundisturbed.implied "Extra" (by decide) (Option.some.inj hextra) (by rw [hbefore]; exact Bool.false_ne_true)

end Detector
end SiteProbe
