import SiteProbe.Proofs.Places

/-!
# Where versions come from

A query that does not match has no version. A version that is not empty was captured on the page by a marked pattern, in
a condition that is not negated and that matches along with everything around it (`Query.ComesFrom`); so it is a part of
the body or of the value of a header field (`Query.version_comesFrom`).
-/

namespace SiteProbe

/-- What the first group of a match covers is a part of the text. -/
theorem Regex.infix_of_firstMatch? {r : Regex} {text group : String} {m : Regex.Match} (h : r.firstMatch? text = some m)
    (hgroup : m.group = some group) : group.toList <:+: text.toList := by
  obtain ⟨s, -, rfl⟩ := Option.map_eq_some_iff.mp h
  obtain ⟨part, hcut, rfl⟩ := Option.map_eq_some_iff.mp hgroup
  rw [String.toList_ofList]
  obtain ⟨start, -, hcut⟩ := Option.bind_eq_some_iff.mp hcut
  obtain ⟨stop, -, hcut⟩ := Option.bind_eq_some_iff.mp hcut
  obtain rfl := Option.some.inj hcut
  exact (List.take_prefix _ _).isInfix.trans (List.drop_suffix start _).isInfix

/-- The value of a field that is not empty is found on the page. -/
theorem Field.mem_of_value_ne {p : Page} {f : Field} (h : f.value p ≠ "") :
    f.value p = p.body ∨ ∃ name, (name, f.value p) ∈ p.headers := by
  cases f with
  | body => exact .inl rfl
  | header name =>
    cases hfind : p.headers.find? fun h => Headers.sameName h.1 name with
    | none => exact absurd (by simp [value, Page.header?, Headers.get?, hfind]) h
    | some found =>
      have hvalue : (header name).value p = found.2 := by simp [value, Page.header?, Headers.get?, hfind]
      rw [hvalue]
      exact .inr ⟨found.1, List.mem_of_find?_eq_some hfind⟩
  | unknown path => exact absurd rfl h

/-- A version that a match gives is what its first group covers. -/
theorem Regex.Match.group_of_version? {m : Regex.Match} (h : m.version?.getD "" ≠ "") :
    m.group = some (m.version?.getD "") := by
  cases hversion : m.version? with
  | none => exact absurd (by rw [hversion]; rfl) h
  | some version => exact (Option.filter_eq_some_iff.mp hversion).1

/-- A pattern captures a version in a text: it is marked, and its first group covers the version. -/
def Pattern.Captures (pattern : Pattern) (text version : String) : Prop :=
  pattern.hasMarker ∧ ∃ r m, pattern.regex = some r ∧ r.firstMatch? text = some m ∧ m.group = some version

/-- A version of a pattern is captured by it. -/
theorem Pattern.captures_of_version_ne {pattern : Pattern} {text : String} (h : (pattern.outcome text).version ≠ "") :
    pattern.Captures text (pattern.outcome text).version := by
  unfold outcome at h ⊢
  cases hfirst : pattern.firstMatch? text with
  | none => rw [hfirst] at h; exact absurd rfl h
  | some m =>
    obtain ⟨r, hr, hm⟩ := Option.bind_eq_some_iff.mp hfirst
    cases hmarker : pattern.hasMarker with
    | false => rw [hfirst, hmarker] at h; exact absurd rfl h
    | true =>
      rw [hfirst, hmarker] at h
      exact ⟨hmarker, r, m, hr, hm, Regex.Match.group_of_version? h⟩

/-- Only a pattern gives an operator a version. -/
theorem Operator.exists_captures {op : Operator} {text : String} (h : (op.outcome text).version ≠ "") :
    ∃ pattern, op = .regex pattern ∧ pattern.Captures text (op.outcome text).version := by
  cases op with
  | regex pattern => exact ⟨pattern, rfl, pattern.captures_of_version_ne h⟩
  | _ => exact absurd rfl h

namespace Query

variable {p : Page} {q : Query} {version : String} {place : List Frame} {f : Field} {ops : List Operator}
  {pattern : Pattern}

theorem matched_of_version_ne (h : (q.outcome p).version ≠ "") : (q.outcome p).matched :=
  Classical.byContradiction fun hm => h (plain_outcome p q hm)

/-! ## Conditions -/

/-- The outcome of a condition on a part of a page that has no text, or that has one. -/
theorem outcome_field (h : ((field f ops).outcome p).matched) : (field f ops).outcome p =
    if f.value p = "" then .ofBool (ops.all Operator.expectsAbsence)
    else .all (ops.map (Operator.outcome (f.value p))) := by
  rw [outcome] at h ⊢
  unfold fieldOutcome at h ⊢
  split at h
  · cases h
  · cases h
  · rw [Operator.outcomeAll_eq]

/-- A version of a condition comes from one of its operators. -/
theorem exists_operator (h : ((field f ops).outcome p).version ≠ "") :
    ∃ op ∈ ops, (op.outcome (f.value p)).version = ((field f ops).outcome p).version := by
  have hmatched := matched_of_version_ne h
  have houtcome := outcome_field hmatched
  split at houtcome
  · rw [houtcome] at h
    exact absurd rfl h
  · rw [houtcome] at h hmatched ⊢
    rw [Outcome.version_all hmatched] at h ⊢
    obtain ⟨o, ho, hversion⟩ := List.mem_map.mp (Outcome.lastVersion_mem h)
    obtain ⟨op, hop, rfl⟩ := List.mem_map.mp ho
    exact ⟨op, hop, hversion⟩

/-- Where an operator is not content with a missing value, a condition that matches has a value. -/
theorem value_ne_of_mem {op : Operator} (hop : op ∈ ops) (hpresent : ¬op.expectsAbsence)
    (h : ((field f ops).outcome p).matched) : f.value p ≠ "" := by
  intro hempty
  rw [outcome_field h, if_pos hempty] at h
  exact hpresent (List.all_eq_true.mp h _ hop)

/-! ## Where a version comes from -/

/-- A version of a query comes from a pattern in a condition at a place: no negation lies around it, all that lies
around it matches along with the condition, and the pattern captures the version. -/
structure ComesFrom (p : Page) (q : Query) (version : String) (place : List Frame) (f : Field) (ops : List Operator)
    (pattern : Pattern) : Prop where
  stands : q = (field f ops).inside place
  unnegated : ∀ frame ∈ place, frame.negates = false
  matched : ∀ outer inner, place = outer ++ inner → (((field f ops).inside inner).outcome p).matched
  mem : .regex pattern ∈ ops
  captures : pattern.Captures (f.value p) version

/-- What lies around a query that matches keeps its version if it matches and is no negation. -/
theorem ComesFrom.fill (frame : Frame) (h : ComesFrom p q version place f ops pattern) (hframe : frame.negates = false)
    (hmatched : ((frame.fill q).outcome p).matched) :
    ComesFrom p (frame.fill q) version (frame :: place) f ops pattern where
  stands := congrArg frame.fill h.stands
  unnegated := List.forall_mem_cons.mpr ⟨hframe, h.unnegated⟩
  matched outer inner hplace := by
    cases outer with
    | nil =>
      obtain rfl : frame :: place = inner := hplace
      rw [inside, ← h.stands]
      exact hmatched
    | cons _ outer =>
      obtain ⟨-, hplace⟩ := List.cons.inj hplace
      exact h.matched outer inner hplace
  mem := h.mem
  captures := h.captures

theorem exists_comesFrom (q : Query) (h : (q.outcome p).version ≠ "") :
    ∃ place f ops pattern, ComesFrom p q (q.outcome p).version place f ops pattern := by
  induction q using inductionOn with
  | all qs ih =>
    have hmatched := matched_of_version_ne h
    have hversion : ((all qs).outcome p).version = Outcome.lastVersion ((qs.map (outcome p)).map (·.version)) := by
      rw [outcome, outcomeAll_eq] at hmatched ⊢
      exact Outcome.version_all hmatched
    rw [hversion] at h ⊢
    obtain ⟨o, ho, hlast⟩ := List.mem_map.mp (Outcome.lastVersion_mem h)
    obtain ⟨q, hq, rfl⟩ := List.mem_map.mp ho
    rw [← hlast] at h ⊢
    obtain ⟨place, f, ops, pattern, hfrom⟩ := ih q hq h
    obtain ⟨before, after, rfl⟩ := List.append_of_mem hq
    exact ⟨.all before after :: place, f, ops, pattern, hfrom.fill (.all before after) rfl hmatched⟩
  | any qs ih =>
    have hmatched := matched_of_version_ne h
    have hfirst : (any qs).outcome p = Outcome.first (qs.map (outcome p)) := by rw [outcome, outcomeAny_eq]
    obtain ⟨q, hq, heq⟩ := List.mem_map.mp (Outcome.first_mem (hfirst ▸ hmatched))
    rw [hfirst, ← heq] at h ⊢
    obtain ⟨place, f, ops, pattern, hfrom⟩ := ih q hq h
    obtain ⟨before, after, rfl⟩ := List.append_of_mem hq
    exact ⟨.any before after :: place, f, ops, pattern, hfrom.fill (.any before after) rfl hmatched⟩
  | none qs => exact absurd rfl h
  | not q => exact absurd rfl h
  | field f ops =>
    have hmatched := matched_of_version_ne h
    obtain ⟨op, hop, hversion⟩ := exists_operator h
    rw [← hversion] at h ⊢
    obtain ⟨pattern, rfl, hcaptures⟩ := Operator.exists_captures h
    refine ⟨[], f, ops, pattern, rfl, List.forall_mem_nil _, fun outer inner hplace => ?_, hop, hcaptures⟩
    obtain ⟨-, rfl⟩ := List.append_eq_nil_iff.mp hplace.symm
    exact hmatched
  | never => exact absurd rfl h

/-- What does not match has no version. A version that is not empty comes from a pattern in a condition that matches,
with all around it, under no negation; so it is a part of the body or of the value of a header field. -/
theorem version_comesFrom (p : Page) (q : Query) :
    (¬(q.outcome p).matched → (q.outcome p).version = "") ∧
      ((q.outcome p).version ≠ "" →
        (∃ place f ops pattern, ComesFrom p q (q.outcome p).version place f ops pattern) ∧
          ∃ text, (text = p.body ∨ ∃ name, (name, text) ∈ p.headers) ∧
            (q.outcome p).version.toList <:+: text.toList) := by
  refine ⟨plain_outcome p q, fun h => ?_⟩
  obtain ⟨place, f, ops, pattern, hfrom⟩ := exists_comesFrom q h
  have hvalue := value_ne_of_mem hfrom.mem Bool.false_ne_true (hfrom.matched place [] (List.append_nil place).symm)
  obtain ⟨-, r, m, -, hm, hgroup⟩ := hfrom.captures
  exact ⟨⟨place, f, ops, pattern, hfrom⟩, f.value p, Field.mem_of_value_ne hvalue, Regex.infix_of_firstMatch? hm hgroup⟩

/-- A page that tells a version. -/
def samplePage : Page := ⟨"Blog v11", 200, []⟩

/-- A query that finds the version in its second part, beside a condition that is negated. -/
def sampleQuery : Query :=
  .any [.never, .all [.field .body [.regex (.compile "v(1+)\\;version:\\1")],
    .not (.field .body [.regex (.compile "Wiki v(1+)\\;version:\\1")])]]

/-- The version comes from the body. The negated condition does not match, and has none. -/
theorem version_comesFrom_sampleQuery :
    ((field .body [.regex (.compile "Wiki v(1+)\\;version:\\1")]).outcome samplePage).version = "" ∧
      (∃ place f ops pattern, ComesFrom samplePage sampleQuery "11" place f ops pattern) ∧
      "11".toList <:+: samplePage.body.toList := by
  have hversion : (sampleQuery.outcome samplePage).version = "11" := by decide +kernel
  obtain ⟨hfrom, text, hplace, hpart⟩ := (version_comesFrom samplePage sampleQuery).2 (by rw [hversion]; decide)
  rw [hversion] at hfrom hpart
  refine ⟨(version_comesFrom samplePage _).1 (by decide +kernel), hfrom, ?_⟩
  rcases hplace with rfl | ⟨name, hmem⟩
  · exact hpart
  · cases hmem

end Query
end SiteProbe
