import SiteProbe.Proofs.Gaps
import SiteProbe.Proofs.RoundTrips
import SiteProbe.Rule.Source

/-!
# Rule documents in which a value is replaced

A query or a pattern of a version rule may be replaced by any value: the document is still read, and the store is the
same but for the query, or the version rules, of the one probe (`Store.load_replaced`). What stands around the value is
followed from the probe outwards: a probe is a record (`Probe.carries_query`, `Probe.carries_pattern`), which stands in
the list of probes of a fingerprint (`Fingerprint.carries_ofDraft`), which stands in the dictionary of a document
(`Fingerprint.carries_databaseOfDraft`).
-/

namespace SiteProbe

open Json Draft

variable {old new : Draft} {room : Nat} {gap : Gap}

namespace Json.Draft

theorem inside_append (d : Draft) (outer inner : List Gap) :
    d.inside (outer ++ inner) = (d.inside inner).inside outer := by
  induction outer with
  | nil => rfl
  | cons gap rest ih => exact congrArg (fun d => gap.fill d) ih

/-- A field that is entered has no value yet. -/
theorem carries_once {α : Type} {R : α → α → Prop} {x y : Except Error α} (h : Carries R x y) (entered : Option α)
    (name : String) : Carries (fun a b => ∃ u w, a = some u ∧ b = some w ∧ R u w) (once entered name x)
      (once entered name y) := by
  cases entered with
  | some u => exact .of_error
  | none => exact h.map fun u w huw => ⟨u, w, rfl, rfl, huw⟩

end Json.Draft

namespace Probe

/-- The query of a probe may be replaced by any value. -/
theorem carries_query {v : Json} (hgap : gap.IsField ["detect"] 2) (hnew : new.toJson (room - 1) = .ok v) :
    Carries (fun p p' => p' = { p with detect := .ofJson v }) (ofDraft room (gap.fill old))
      (ofDraft room (gap.fill new)) := by
  unfold ofDraft
  refine Carries.bind (R := fun s s' => s.detect.isSome ∧ s' = { s with detect := some (.ofJson v) }) ?_ ?_
  · refine carries_record hgap (by simp) ⟨"detect", by simp⟩ (fun s k hk => ?_) fun s s' k d h => ?_
    · obtain rfl := List.mem_singleton.mp hk
      have hread : Carries (fun _ q => q = .ofJson v) (queryOfDraft (room - 1) old) (queryOfDraft (room - 1) new) := by
        intro q _
        exact ⟨.ofJson v, by rw [queryOfDraft, hnew]; rfl, rfl⟩
      refine (carries_once hread s.detect "detect").bind ?_
      rintro _ _ ⟨q, _, rfl, rfl, rfl⟩
      exact .pure ⟨rfl, rfl⟩
    · obtain ⟨hsome, rfl⟩ := h
      obtain ⟨q, hq⟩ := Option.isSome_iff_exists.mp hsome
      unfold Fields.take
      -- a second query is refused, whatever the first one is
      split
      · exact .bind_same _ fun _ => .pure ⟨hsome, rfl⟩
      · exact .bind_same _ fun _ => .pure ⟨hsome, rfl⟩
      · rw [hq]
        exact .of_error
      · exact .bind_same _ fun _ => .pure ⟨hsome, rfl⟩
  · rintro s _ ⟨hsome, rfl⟩
    cases hpath : s.path with
    | none => exact .of_error
    | some path => exact .pure rfl

/-- Read a map from fields to patterns. -/
def patternsOfDraft (room : Nat) (d : Draft) : Except Json.Error (List (String × Json)) :=
  Dict.toList <$> d.dict toJson room

/-- A pattern of a probe's version rules may be replaced by any value. -/
theorem carries_pattern {v : Json} {maps maps' : List Draft} {entries entries' : List (Option String × Draft)}
    {key : String} (hgap : gap.IsField ["extract_version"] 3) (hnew : new.toJson (room - 3) = .ok v) :
    Carries (fun p p' => ∃ rules, p' = { p with versionRules := rules })
      (ofDraft room (old.inside [gap, .item maps maps', .value entries key entries']))
      (ofDraft room (new.inside [gap, .item maps maps', .value entries key entries'])) := by
  have hread : Carries (fun _ _ => True)
      (versionRulesOfDraft (room - 1) (old.inside [.item maps maps', .value entries key entries']))
      (versionRulesOfDraft (room - 1) (new.inside [.item maps maps', .value entries key entries'])) := by
    have hvalue : Carries (fun _ _ => True) (toJson (room - 3) old) (toJson (room - 3) new) :=
      fun _ _ => ⟨v, hnew, trivial⟩
    have hmap : Carries (fun _ _ => True) (patternsOfDraft (room - 1 - 1) (old.inside [.value entries key entries']))
        (patternsOfDraft (room - 1 - 1) (new.inside [.value entries key entries'])) :=
      (carries_dict hvalue entries key entries').map fun _ _ _ => trivial
    have hmaps := (@carries_list _ _ _ _ (room - 1) patternsOfDraft hmap maps maps').map (f := some) (g := some)
      (S := fun _ _ => True) fun _ _ _ => trivial
    exact hmaps.bind fun _ _ _ => .pure trivial
  unfold ofDraft
  refine Carries.bind
    (R := fun s s' => s.versionRules.isSome ∧ ∃ rules, s' = { s with versionRules := some rules }) ?_ ?_
  · refine carries_record hgap (by simp) ⟨"extract_version", by simp⟩ (fun s k hk => ?_) fun s s' k d h => ?_
    · obtain rfl := List.mem_singleton.mp hk
      refine (carries_once hread s.versionRules "extract_version").bind ?_
      rintro _ _ ⟨_, rules, rfl, rfl, -⟩
      exact .pure ⟨rfl, rules, rfl⟩
    · obtain ⟨hsome, rules, rfl⟩ := h
      obtain ⟨entered, hentered⟩ := Option.isSome_iff_exists.mp hsome
      unfold Fields.take
      split
      · exact .bind_same _ fun _ => .pure ⟨hsome, rules, rfl⟩
      · exact .bind_same _ fun _ => .pure ⟨hsome, rules, rfl⟩
      · exact .bind_same _ fun _ => .pure ⟨hsome, rules, rfl⟩
      · rw [hentered]
        exact .of_error
  · rintro s _ ⟨hsome, rules, rfl⟩
    cases hpath : s.path with
    | none => exact .of_error
    | some path => exact .pure ⟨rules, rfl⟩

end Probe

namespace Fingerprint

variable {R : Probe → Probe → Prop}

/-- Fingerprints that are the same but for the probe at an index. -/
def SameButProbe (R : Probe → Probe → Prop) (index : Nat) (f f' : Fingerprint) : Prop :=
  ∃ probes, SameBut R index f.paths probes ∧ f' = { f with paths := probes }

/-- If a probe may be replaced by another one, then it may in the fingerprint. -/
theorem carries_ofDraft (hprobe : Carries R (Probe.ofDraft (room - 2) old) (Probe.ofDraft (room - 2) new))
    (hgap : gap.IsField ["paths"] 2) (front behind : List Draft) :
    Carries (SameButProbe R front.length) (ofDraft room (old.inside [gap, .item front behind]))
      (ofDraft room (new.inside [gap, .item front behind])) := by
  have hlist := @carries_list _ _ _ _ (room - 1) _ hprobe front behind
  unfold ofDraft
  refine Carries.bind (R := fun s s' => ∃ probes probes', s.paths = some probes ∧
    SameBut R front.length probes probes' ∧ s' = { s with paths := some probes' }) ?_ ?_
  · refine carries_record hgap (by simp [fieldNames]) ⟨"paths", by simp [fieldNames]⟩ (fun s k hk => ?_)
      fun s s' k d h => ?_
    · obtain rfl := List.mem_singleton.mp hk
      refine (carries_once hlist s.paths "paths").bind ?_
      rintro _ _ ⟨probes, probes', rfl, rfl, hsame⟩
      exact .pure ⟨probes, probes', rfl, hsame, rfl⟩
    · obtain ⟨probes, probes', hentered, hsame, rfl⟩ := h
      unfold Fields.take
      split
      case h_4 =>
        rw [hentered]
        exact .of_error
      all_goals exact .bind_same _ fun _ => .pure ⟨probes, probes', hentered, hsame, rfl⟩
  · rintro s _ ⟨probes, probes', hentered, hsame, rfl⟩
    refine .pure ⟨probes', ?_, rfl⟩
    rw [hentered]
    exact hsame

/-- If a fingerprint may be replaced by another one, then it may in the document. -/
theorem carries_databaseOfDraft {S : Fingerprint → Fingerprint → Prop}
    (hfingerprint : Carries S (ofDraft (room - 2) old) (ofDraft (room - 2) new)) (hgap : gap.IsField ["apps"] 0)
    (before : List (Option String × Draft)) (tech : String) (after : List (Option String × Draft)) :
    Carries (SameButAt S tech) (databaseOfDraft room (old.inside [gap, .value before tech after]))
      (databaseOfDraft room (new.inside [gap, .value before tech after])) := by
  have hdict := @carries_dict _ _ _ _ (room - 1) _ hfingerprint before tech after
  unfold databaseOfDraft
  refine Carries.bind (R := fun s s' => ∃ d d', s = some d ∧ s' = some d' ∧ SameButAt S tech d d') ?_ ?_
  · refine carries_record hgap (by simp) ⟨"apps", by simp⟩ (fun s k hk => ?_) fun s s' k d h => ?_
    · exact carries_once hdict s k
    · obtain ⟨d, d', rfl, rfl, hsame⟩ := h
      exact .of_error
  · rintro _ _ ⟨d, d', rfl, rfl, hsame⟩
    exact .pure hsame

end Fingerprint

namespace Store

/-! ## Places in a rule document -/

/-- The place of a probe in a rule document: it stands at an index among the probes of a technology. -/
inductive IsProbePlace (tech : String) (index : Nat) : List Gap → Prop
  | intro {apps paths : Gap} {before after : List (Option String × Draft)} {front behind : List Draft}
    (happs : apps.IsField ["apps"] 0) (hpaths : paths.IsField ["paths"] 2) (hindex : front.length = index) :
    IsProbePlace tech index [apps, .value before tech after, paths, .item front behind]

/-- The place of the query of a probe. -/
inductive IsQueryPlace (tech : String) (index : Nat) : List Gap → Prop
  | intro {place : List Gap} {detect : Gap} (hprobe : IsProbePlace tech index place)
    (hdetect : detect.IsField ["detect"] 2) : IsQueryPlace tech index (place ++ [detect])

/-- The place of a pattern of a probe's version rules, which is a value in one of their maps. -/
inductive IsPatternPlace (tech : String) (index : Nat) : List Gap → Prop
  | intro {place : List Gap} {rules : Gap} {maps maps' : List Draft} {before after : List (Option String × Draft)}
    {key : String} (hprobe : IsProbePlace tech index place) (hrules : rules.IsField ["extract_version"] 3) :
    IsPatternPlace tech index (place ++ [rules, .item maps maps', .value before key after])

/-- Stores that are the same, or the same but for one probe of a technology. -/
def SameButProbe (R : Probe → Probe → Prop) (tech : String) (index : Nat) (s s' : Store) : Prop :=
  s' = s ∨ ∃ f p p', s.get? tech = some f ∧ f.paths[index]? = some p ∧ R p p' ∧
    s' = s.insert tech { f with paths := f.paths.set index p' }

variable {R : Probe → Probe → Prop} {tech : String} {index : Nat} {place : List Gap} {bytes bytes' : List UInt8}

/-- The probe at an index among those of a technology. -/
def probe? (s : Store) (name : String) (i : Nat) : Option Probe := (s.get? name).bind fun f => f.paths[i]?

/-- Stores that are the same but for one probe have all other probes in common. -/
theorem SameButProbe.probe?_eq {s s' : Store} (h : SameButProbe R tech index s s') {name : String} {i : Nat}
    (hother : name ≠ tech ∨ i ≠ index) : s'.probe? name i = s.probe? name i := by
  rcases h with rfl | ⟨f, p, p', hf, -, -, rfl⟩
  · rfl
  · unfold probe?
    by_cases hname : name = tech
    · subst hname
      have hi : i ≠ index := hother.resolve_left fun hne => hne rfl
      rw [Dict.get?_insert_self, hf, Option.bind_some, Option.bind_some, List.getElem?_set_ne (Ne.symm hi)]
    · rw [Dict.get?_insert_of_ne _ _ hname]

/-- Loading a text reads its draft. -/
theorem load_eq_ok_iff {d : Draft} {s : Store} (h : draft bytes = (d, true)) :
    load bytes = .ok s ↔ Fingerprint.databaseOfDraft depthLimit d = .ok s := by
  unfold load ofBytes decodeText
  rw [h]
  dsimp only
  cases Fingerprint.databaseOfDraft depthLimit d <;>
    simp [bind, Except.bind, pure, Except.pure, Except.mapError]

/-- If a probe may be replaced by another one, then it may in the text of a document. -/
theorem carries_load (hplace : IsProbePlace tech index place)
    (hprobe : Carries R (Probe.ofDraft (depthLimit - 4) old) (Probe.ofDraft (depthLimit - 4) new))
    (h : draft bytes = (old.inside place, true)) (h' : draft bytes' = (new.inside place, true)) :
    Carries (SameButProbe R tech index) (load bytes) (load bytes') := by
  obtain @⟨apps, paths, before, after, front, behind, happs, hpaths, hindex⟩ := hplace
  have hfingerprint : Carries (Fingerprint.SameButProbe R index)
      (Fingerprint.ofDraft (depthLimit - 2) (old.inside [paths, .item front behind]))
      (Fingerprint.ofDraft (depthLimit - 2) (new.inside [paths, .item front behind])) := by
    rw [← hindex]
    exact Fingerprint.carries_ofDraft hprobe hpaths front behind
  have hdatabase := Fingerprint.carries_databaseOfDraft hfingerprint happs before tech after
  intro s hs
  obtain ⟨s', hs', hsame⟩ := hdatabase s ((load_eq_ok_iff h).mp hs)
  refine ⟨s', (load_eq_ok_iff h').mpr hs', ?_⟩
  rcases hsame with hsame | ⟨f, _, hf, ⟨probes, ⟨fore, p, p', aft, hlength, hpaths', rfl, hp⟩, rfl⟩, hinsert⟩
  · exact .inl hsame
  · refine .inr ⟨f, p, p', hf, ?_, hp, ?_⟩
    · simp [hpaths', ← hlength]
    · rw [hinsert, hpaths', ← hlength, List.set_append_right _ _ (Nat.le_refl _), Nat.sub_self, List.set_cons_zero]

/-- For every rule document that is loaded: another value in the place of a probe's query, which may be anything that
the reader accepts there, gives a document that is loaded, too, and the stores are the same but for the query of this
probe. Another value in the place of a pattern of a probe's version rules does so, and the stores are the same but for
the version rules of this probe. (They are the very same if the technology is declared once more further on.) -/
theorem load_replaced (bytes bytes' : List UInt8) (s : Store) (hload : load bytes = .ok s) (tech : String) (index : Nat)
    (place : List Gap) (old new : Draft) (h : draft bytes = (old.inside place, true))
    (h' : draft bytes' = (new.inside place, true)) (v : Json)
    (hnew : new.toJson (depthLimit - place.length) = .ok v) :
    (IsQueryPlace tech index place → ∃ s', load bytes' = .ok s' ∧
      SameButProbe (fun p p' => p' = { p with detect := .ofJson v }) tech index s s') ∧
    (IsPatternPlace tech index place → ∃ s', load bytes' = .ok s' ∧
      SameButProbe (fun p p' => ∃ rules, p' = { p with versionRules := rules }) tech index s s') := by
  constructor
  · rintro ⟨hprobe, hdetect⟩
    rw [inside_append] at h h'
    refine carries_load hprobe (Probe.carries_query hdetect ?_) h h' s hload
    obtain ⟨-, -, -⟩ := hprobe
    exact hnew
  · rintro ⟨hprobe, hrules⟩
    rw [inside_append] at h h'
    refine carries_load hprobe (Probe.carries_pattern (v := v) hrules ?_) h h' s hload
    obtain ⟨-, -, -⟩ := hprobe
    exact hnew

/-- A probe with a query and a pattern. -/
def sampleProbe (query pattern : Json) : Json :=
  .object [("path", .string "/"), ("detect", query), ("extract_version", .array [.object [("body", pattern)]])]

/-- A probe that stays as it is. -/
def otherProbe : Json := sampleProbe (.object [("body", .string "blog")]) (.string "v(2+)")

/-- A rule document with two technologies. The second one has two probes, of which the second one has a query and a
pattern of its own. -/
def sampleDocument (query pattern : Json) : Json :=
  .object [("apps", .object [("Blog", .object [("paths", .array [otherProbe])]),
    ("PHP", .object [("paths", .array [otherProbe, sampleProbe query pattern])])])]

theorem whole_sampleProbe {query pattern : Json} (hquery : query.Whole) (hpattern : pattern.Whole) :
    (sampleProbe query pattern).Whole := by
  have hmaps : Json.Whole (.array [.object [("body", pattern)]]) :=
    .array (List.forall_mem_singleton.mpr (.object (List.forall_mem_singleton.mpr hpattern)))
  exact .object (List.forall_mem_cons.mpr ⟨.string "/", List.forall_mem_cons.mpr ⟨hquery,
    List.forall_mem_singleton.mpr hmaps⟩⟩)

theorem whole_sampleDocument {query pattern : Json} (hquery : query.Whole) (hpattern : pattern.Whole) :
    (sampleDocument query pattern).Whole := by
  have hother : otherProbe.Whole := whole_sampleProbe (.object (List.forall_mem_singleton.mpr (.string _))) (.string _)
  have hpaths {probes : List Json} (h : ∀ v ∈ probes, v.Whole) : Json.Whole (.object [("paths", .array probes)]) :=
    .object (List.forall_mem_singleton.mpr (.array h))
  refine .object (List.forall_mem_singleton.mpr (.object (List.forall_mem_cons.mpr ⟨?_, ?_⟩)))
  · exact hpaths (List.forall_mem_singleton.mpr hother)
  · have hprobe := whole_sampleProbe hquery hpattern
    exact List.forall_mem_singleton.mpr
      (hpaths (List.forall_mem_cons.mpr ⟨hother, List.forall_mem_singleton.mpr hprobe⟩))

/-- The text of a sample. -/
def sampleText (query pattern : Json) : List UInt8 := Utf8.encode (sampleDocument query pattern).compress

/-- The place of the probe in a sample. -/
def samplePlace : List Gap :=
  [.value [] "apps" [], .value [(some "Blog", .ofJson (.object [("paths", .array [otherProbe])]))] "PHP" [],
    .value [] "paths" [], .item [.ofJson otherProbe] []]

/-- The place of the query in a sample. -/
def sampleQueryPlace (pattern : Json) : List Gap :=
  samplePlace ++ [.value [(some "path", .string (some "/"))] "detect"
    [(some "extract_version", .array [.object [(some "body", .ofJson pattern)]])]]

/-- The place of the pattern in a sample. -/
def samplePatternPlace (query : Json) : List Gap :=
  samplePlace ++ [.value [(some "path", .string (some "/")), (some "detect", .ofJson query)] "extract_version" [],
    .item [] [], .value [] "body" []]

theorem draft_sampleText {query pattern : Json} (hquery : query.Whole) (hpattern : pattern.Whole) :
    draft (sampleText query pattern) = ((Draft.ofJson query).inside (sampleQueryPlace pattern), true) ∧
      draft (sampleText query pattern) = ((Draft.ofJson pattern).inside (samplePatternPlace query), true) := by
  have hdraft := (reads_compress (whole_sampleDocument hquery hpattern)).draft_eq
  exact ⟨hdraft, hdraft⟩

/-- A number in the place of the query, or in the place of the pattern, does not keep a document from being loaded, and
it changes no probe but the one that it is in. -/
theorem load_replaced_sample : ∃ s,
    load (sampleText (.object [("body", .string "php")]) (.string "v(1+)")) = .ok s ∧
    (∃ s', load (sampleText (.ofNat 5) (.string "v(1+)")) = .ok s' ∧
      SameButProbe (fun p p' => p' = { p with detect := .ofJson (.ofNat 5) }) "PHP" 1 s s' ∧
      s'.probe? "Blog" 0 = s.probe? "Blog" 0 ∧ s'.probe? "PHP" 0 = s.probe? "PHP" 0) ∧
    ∃ s', load (sampleText (.object [("body", .string "php")]) (.ofNat 5)) = .ok s' ∧
      SameButProbe (fun p p' => ∃ rules, p' = { p with versionRules := rules }) "PHP" 1 s s' ∧
      s'.probe? "Blog" 0 = s.probe? "Blog" 0 ∧ s'.probe? "PHP" 0 = s.probe? "PHP" 0 := by
  have hquery : Json.Whole (.object [("body", .string "php")]) := .object (List.forall_mem_singleton.mpr (.string _))
  have hpattern : Json.Whole (.string "v(1+)") := .string _
  have hnumber : Json.Whole (.ofNat 5) := .number ⟨by decide, by decide⟩
  have hprobe : IsProbePlace "PHP" 1 samplePlace :=
    .intro (.value (List.mem_singleton.mpr rfl)) (.value (List.mem_singleton.mpr rfl)) rfl
  have hothers {R : Probe → Probe → Prop} {s s' : Store} (h : SameButProbe R "PHP" 1 s s') :
      s'.probe? "Blog" 0 = s.probe? "Blog" 0 ∧ s'.probe? "PHP" 0 = s.probe? "PHP" 0 :=
    ⟨h.probe?_eq (.inl (by decide)), h.probe?_eq (.inr (by decide))⟩
  obtain ⟨hold, hold'⟩ := draft_sampleText hquery hpattern
  obtain ⟨s, hs⟩ : ∃ s, load (sampleText (.object [("body", .string "php")]) (.string "v(1+)")) = .ok s := by
    obtain ⟨s, hs⟩ : ∃ s, Fingerprint.databaseOfDraft depthLimit
      (.ofJson (sampleDocument (.object [("body", .string "php")]) (.string "v(1+)"))) = .ok s := ⟨_, rfl⟩
    exact ⟨s, (load_eq_ok_iff hold).mpr hs⟩
  obtain ⟨s₁, hs₁, hsame₁⟩ := (load_replaced _ _ s hs "PHP" 1 _ _ _ hold (draft_sampleText hnumber hpattern).1
    (.ofNat 5) rfl).1 (.intro hprobe (.value (List.mem_singleton.mpr rfl)))
  obtain ⟨s₂, hs₂, hsame₂⟩ := (load_replaced _ _ s hs "PHP" 1 _ _ _ hold' (draft_sampleText hquery hnumber).2
    (.ofNat 5) rfl).2 (.intro hprobe (.value (List.mem_singleton.mpr rfl)))
  exact ⟨s, hs, ⟨s₁, hs₁, hsame₁, hothers hsame₁⟩, s₂, hs₂, hsame₂, hothers hsame₂⟩

end Store
end SiteProbe
