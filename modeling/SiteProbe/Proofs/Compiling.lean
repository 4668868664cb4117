import SiteProbe.Proofs.FieldConditions

/-!
# Compiled queries

To compile a value and to evaluate the query on a page follows the rules of written queries, and nothing else does
(`Wire.isReading_iff`).
-/

namespace SiteProbe

/-! ## Lists of queries -/

namespace Query

variable {p : Page}

theorem ofMembers_eq (members : List (String × Json)) : ofMembers members = members.map fun m => ofMember m.1 m.2 := by
  induction members with
  | nil => rfl
  | cons m rest ih => rw [ofMembers, ih, List.map_cons]

theorem ofItems_eq (items : List Json) : ofItems items = items.map ofJson := by
  induction items with
  | nil => rfl
  | cons v rest ih => rw [ofItems, ih, List.map_cons]

theorem outcomeAll_eq (p : Page) (qs : List Query) : outcomeAll p qs = .all (qs.map (outcome p)) := by
  induction qs with
  | nil => rfl
  | cons q rest ih => rw [outcomeAll, ih, List.map_cons, Outcome.all, Outcome.all, List.foldr_cons]

theorem outcomeAny_eq (p : Page) (qs : List Query) : outcomeAny p qs = .first (qs.map (outcome p)) := by
  induction qs with
  | nil => rfl
  | cons q rest ih =>
    rw [outcomeAny, ih, List.map_cons, Outcome.first, Outcome.first, List.find?_cons]
    cases (q.outcome p).matched <;> rfl

theorem plain_fieldOutcome (p : Page) (f : Field) (ops : List Operator) : (fieldOutcome p f ops).Plain := by
  unfold fieldOutcome
  split
  · exact Outcome.plain_miss
  · exact Outcome.plain_miss
  · split
    · exact Outcome.plain_ofBool _
    · rw [Operator.outcomeAll_eq]
      exact Outcome.plain_all _

theorem plain_outcome (p : Page) (q : Query) : (q.outcome p).Plain := by
  cases q with
  | all qs => rw [outcome, outcomeAll_eq]; exact Outcome.plain_all _
  | any qs => rw [outcome, outcomeAny_eq]; exact Outcome.plain_first _
  | none qs => exact Outcome.plain_ofBool _
  | not q => exact Outcome.plain_ofBool _
  | field f ops => exact plain_fieldOutcome p f ops
  | never => exact Outcome.plain_miss

/-- A conjunction of some queries matches if all do; one of none never does. -/
theorem outcome_conjunction (p : Page) (qs : List Query) :
    (conjunction qs).outcome p = if qs = [] then .miss else .all (qs.map (outcome p)) := by
  match qs with
  | [] => rfl
  | [q] => exact (Outcome.all_singleton (plain_outcome p q)).symm
  | q :: q' :: rest => exact outcomeAll_eq p (q :: q' :: rest)

/-! ## Values and entries -/

theorem outcome_object (members : List (String × Json)) : (ofJson (.object members)).outcome p =
    if members = [] then .miss else .all (members.map fun m => (ofMember m.1 m.2).outcome p) := by
  rw [ofJson, outcome_conjunction, ofMembers_eq, List.map_map]
  simp only [List.map_eq_nil_iff]
  rfl

theorem outcome_and (items : List Json) :
    (ofMember "$and" (.array items)).outcome p = .all (items.map fun w => (ofJson w).outcome p) := by
  rw [ofMember, if_pos rfl, outcome, outcomeAll_eq, ofItems_eq, List.map_map]
  rfl

theorem outcome_or (items : List Json) :
    (ofMember "$or" (.array items)).outcome p = .first (items.map fun w => (ofJson w).outcome p) := by
  rw [ofMember, if_neg (by decide), if_pos rfl, outcome, outcomeAny_eq, ofItems_eq, List.map_map]
  rfl

theorem outcome_nor (items : List Json) : (ofMember "$nor" (.array items)).outcome p =
    .ofBool (!(Outcome.first (items.map fun w => (ofJson w).outcome p)).matched) := by
  rw [ofMember, if_neg (by decide), if_neg (by decide), if_pos rfl, outcome, outcomeAny_eq, ofItems_eq, List.map_map]
  rfl

theorem outcome_not (members : List (String × Json)) : (ofMember "$not" (.object members)).outcome p =
    .ofBool (!((ofJson (.object members)).outcome p).matched) := by
  rw [ofMember, if_neg (by decide), if_neg (by decide), if_neg (by decide), if_pos rfl, outcome, ofJson]

/-- Only an object is a query. -/
theorem outcome_of_not_object {v : Json} (h : ∀ members, v ≠ .object members) :
    (ofJson v).outcome p = .miss ∧ (ofMember "$not" v).outcome p = .miss := by
  cases v with
  | object members => exact absurd rfl (h members)
  | _ => exact ⟨rfl, rfl⟩

/-- Only an array puts several queries together. -/
theorem outcome_of_not_array {key : String} (hkey : key ∈ ["$and", "$or", "$nor"]) {v : Json}
    (h : ∀ items, v ≠ .array items) : (ofMember key v).outcome p = .miss := by
  simp only [List.mem_cons, List.not_mem_nil, or_false] at hkey
  cases v with
  | array items => exact absurd rfl (h items)
  | _ => rcases hkey with rfl | rfl | rfl <;> rfl

/-- What matches under such a key is an array whose items match as the key says. -/
theorem matched_array_iff {key : String} (hkey : key ∈ ["$and", "$or", "$nor"]) {R : List Json → Prop}
    (h : ∀ items, ((ofMember key (.array items)).outcome p).matched ↔ R items) (v : Json) :
    ((ofMember key v).outcome p).matched ↔ ∃ items, v = .array items ∧ R items := by
  by_cases harray : ∃ items, v = .array items
  · obtain ⟨items, rfl⟩ := harray
    simp [h]
  · rw [outcome_of_not_array hkey (not_exists.mp harray)]
    exact ⟨fun hmatched => absurd hmatched (by decide), fun hitems => absurd (hitems.imp fun _ => And.left) harray⟩

theorem matched_object_iff (v : Json) : ((ofJson v).outcome p).matched ↔
    ∃ members, v = .object members ∧ members ≠ [] ∧ ∀ m ∈ members, ((ofMember m.1 m.2).outcome p).matched := by
  by_cases hobject : ∃ members, v = .object members
  · obtain ⟨members, rfl⟩ := hobject
    rw [outcome_object]
    by_cases hmembers : members = []
    · simp [hmembers, Outcome.miss]
    · simp [hmembers, Outcome.matched_all, List.forall_mem_map, -List.mem_map]
  · rw [(outcome_of_not_object (not_exists.mp hobject)).1]
    exact ⟨fun hmatched => absurd hmatched (by decide), fun hmembers => absurd (hmembers.imp fun _ => And.left) hobject⟩

theorem matched_not_iff (v : Json) : ((ofMember "$not" v).outcome p).matched ↔
    (∃ members, v = .object members) ∧ ¬((ofJson v).outcome p).matched := by
  by_cases hobject : ∃ members, v = .object members
  · obtain ⟨members, rfl⟩ := hobject
    simp [outcome_not, Outcome.ofBool]
  · rw [(outcome_of_not_object (not_exists.mp hobject)).2]
    exact ⟨fun hmatched => absurd hmatched (by decide), fun h => absurd h.1 hobject⟩

theorem ofMember_eq_ofField {key : String} (h : key ∉ Wire.combinators) (v : Json) :
    ofMember key v = ofField key v := by
  simp only [Wire.combinators, List.mem_cons, not_or] at h
  unfold ofMember
  rw [if_neg h.1, if_neg h.2.1, if_neg h.2.2.1, if_neg h.2.2.2.1]

theorem matched_field_iff {key : String} (hkey : key ∉ Wire.combinators) (v : Json) :
    ((ofMember key v).outcome p).matched ↔
      ∃ text members, Wire.FieldText p key text ∧ v = .object members ∧ Wire.Satisfied text members := by
  rw [ofMember_eq_ofField hkey]
  by_cases hfield : ∃ text members, Wire.FieldText p key text ∧ v = .object members
  · obtain ⟨text, members, htext, rfl⟩ := hfield
    rw [matched_ofField_iff htext]
    constructor
    · exact fun hsat => ⟨text, members, htext, rfl, hsat⟩
    · rintro ⟨text', members', htext', heq, hsat⟩
      cases heq
      exact htext.unique htext' ▸ hsat
  · rw [outcome_ofField_eq_miss hfield]
    refine ⟨fun hmatched => absurd hmatched (by decide), ?_⟩
    rintro ⟨text, members, htext, hv, -⟩
    exact absurd ⟨text, members, htext, hv⟩ hfield

/-- To compile and to evaluate follows the rules. -/
theorem isReading_outcome (p : Page) :
    Wire.IsReading p (fun v => (ofJson v).outcome p) (fun key v => (ofMember key v).outcome p) where
  object_matched := matched_object_iff
  object_version members h := by
    rw [outcome_object] at h ⊢
    split at h
    · cases h
    · rename_i hne
      rw [if_neg hne, Outcome.version_all h, List.map_map]
      rfl
  and_matched := matched_array_iff (by decide) fun items => by simp [outcome_and, Outcome.matched_all]
  and_version items h := by
    rw [outcome_and] at h ⊢
    rw [Outcome.version_all h, List.map_map]
    rfl
  or_matched := matched_array_iff (by decide) fun items => by simp [outcome_or, Outcome.matched_first]
  or_version items := by rw [outcome_or]
  nor_matched := matched_array_iff (by decide) fun items => by
    simp [outcome_nor, Outcome.ofBool, Outcome.matched_first, ← Bool.not_eq_true]
  nor_version v := by
    cases v with
    | array items => rw [outcome_nor, Outcome.ofBool]
    | _ => rfl
  not_matched := matched_not_iff
  not_version v := by
    cases v with
    | object members => rw [outcome_not, Outcome.ofBool]
    | _ => rfl
  field_matched key v hkey := matched_field_iff hkey v
  field_version key text members hkey htext h := by
    rw [ofMember_eq_ofField hkey] at h ⊢
    exact version_ofField htext members h
  value_plain v := plain_outcome p (ofJson v)
  entry_plain key v := plain_outcome p (ofMember key v)

end Query

namespace Wire

/-- To compile a value and to evaluate the query on a page gives the one outcome that follows the rules. -/
theorem isReading_iff (p : Page) (value : Json → Outcome) (entry : String → Json → Outcome) :
    IsReading p value entry ↔ (∀ v, value v = (Query.ofJson v).outcome p) ∧
      ∀ key v, entry key v = (Query.ofMember key v).outcome p := by
  constructor
  · intro h
    exact ⟨fun v => (h.unique (Query.isReading_outcome p) v).1,
      fun key v => (h.unique (Query.isReading_outcome p) v).2 key⟩
  · rintro ⟨hvalue, hentry⟩
    obtain rfl := funext hvalue
    obtain rfl := funext fun key => funext (hentry key)
    exact Query.isReading_outcome p

end Wire
end SiteProbe
