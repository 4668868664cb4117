import SiteProbe.Proofs.WireRules

/-!
# Conditions on fields

A condition on a part of a page matches if it is satisfied (`Query.matched_ofField_iff`), with the last version of its
operators (`Query.version_ofField`).
-/

namespace SiteProbe

/-! ## Fields -/

namespace Field

theorem ofPath_body : ofPath "body" = .body := by decide

theorem ofPath_headers {name : String} (h : name ≠ "") : ofPath ("headers." ++ name) = .header name := by
  have hcut : Text.cut? ['.'] ("headers." ++ name).toList = some ("headers".toList, name.toList) := by
    rw [String.toList_append]
    rfl
  unfold ofPath
  rw [hcut]
  simp [h]

theorem eq_of_ofPath_eq_body {path : String} (h : ofPath path = .body) : path = "body" := by
  unfold ofPath at h
  split at h
  · split at h
    · assumption
    · cases h
  · split at h <;> cases h

theorem eq_of_ofPath_eq_header {path name : String} (h : ofPath path = .header name) :
    path = "headers." ++ name ∧ name ≠ "" := by
  unfold ofPath at h
  split at h
  · split at h <;> cases h
  · rename_i word behind hcut
    split at h
    · rename_i hword
      cases h
      simp only [Bool.and_eq_true, decide_eq_true_eq] at hword
      have hpath := Text.eq_of_cut?_eq_some hcut
      rw [hword.1] at hpath
      constructor
      · rw [← String.toList_inj, hpath]
        simp
      · simpa using hword.2
    · cases h

end Field

namespace Wire

variable {p : Page} {key text : String}

/-- A key that stands for a part of a page is the path of a field that is known. -/
theorem fieldText_iff : FieldText p key text ↔
    (∀ path, Field.ofPath key ≠ .unknown path) ∧ (Field.ofPath key).value p = text := by
  constructor
  · rintro (_ | hname)
    · rw [Field.ofPath_body]
      exact ⟨nofun, rfl⟩
    · rw [Field.ofPath_headers hname]
      exact ⟨nofun, rfl⟩
  · rintro ⟨hknown, rfl⟩
    cases hfield : Field.ofPath key with
    | body =>
      rw [Field.eq_of_ofPath_eq_body hfield]
      exact .body
    | header name =>
      obtain ⟨rfl, hname⟩ := Field.eq_of_ofPath_eq_header hfield
      exact .header hname
    | unknown path => exact absurd hfield (hknown path)

theorem FieldText.unique {text' : String} (h : FieldText p key text) (h' : FieldText p key text') : text = text' :=
  (fieldText_iff.mp h).2.symm.trans (fieldText_iff.mp h').2

end Wire

/-! ## Operators -/

namespace Operator

theorem outcomeAll_eq (text : String) (ops : List Operator) : outcomeAll text ops = .all (ops.map (outcome text)) := by
  induction ops with
  | nil => rfl
  | cons op rest ih => rw [outcomeAll, ih, List.map_cons, Outcome.all, Outcome.all, List.foldr_cons]

/-- Names that are no operators are passed over. -/
theorem ofJson?_eq_none {name : String} (h : name ∉ Wire.operators) (operand : Json) : ofJson? name operand = none := by
  simp only [Wire.operators, List.mem_cons, List.not_mem_nil, not_or] at h
  unfold ofJson?
  split <;> simp_all

theorem mem_filterMap_string? {text : String} {items : List Json} :
    text ∈ items.filterMap Json.string? ↔ .string text ∈ items := by
  rw [List.mem_filterMap]
  constructor
  · rintro ⟨v, hv, htext⟩
    cases v with
    | string other =>
      obtain rfl := Option.some.inj htext
      exact hv
    | _ => cases htext
  · exact fun h => ⟨_, h, rfl⟩

theorem outcome_regex (text raw : String) :
    (((regex (.compile raw)).outcome text).matched ↔ Wire.Holds text "$regex" (.string raw)) ∧
      ((regex (.compile raw)).outcome text).version = Wire.operatorVersion text "$regex" (.string raw) := by
  show (((Pattern.compile raw).outcome text).matched ↔ ((Pattern.compile raw).firstMatch? text).isSome) ∧
    ((Pattern.compile raw).outcome text).version = if (Pattern.compile raw).hasMarker then
      (((Pattern.compile raw).firstMatch? text).bind (·.version?)).getD "" else ""
  unfold Pattern.outcome
  cases (Pattern.compile raw).firstMatch? text with
  | none => simp [Outcome.miss]
  | some m => simp [Outcome.hit]

/-- An operator is compiled to what it says. -/
theorem exists_ofJson? {name : String} (h : name ∈ Wire.operators) (operand : Json) (text : String) :
    ∃ op, ofJson? name operand = some op ∧ ((op.outcome text).matched ↔ Wire.Holds text name operand) ∧
      (op.outcome text).version = Wire.operatorVersion text name operand ∧
      (op.expectsAbsence ↔ (name, operand) = ("$exists", .bool false)) := by
  -- an operand of another kind
  have hmismatched {name : String} {operand : Json} (hnot : ¬Wire.Holds text name operand)
      (hversion : Wire.operatorVersion text name operand = "") (hne : (name, operand) ≠ ("$exists", .bool false)) :
      (((mismatched name).outcome text).matched ↔ Wire.Holds text name operand) ∧
        ((mismatched name).outcome text).version = Wire.operatorVersion text name operand ∧
        ((mismatched name).expectsAbsence ↔ (name, operand) = ("$exists", .bool false)) :=
    ⟨⟨nofun, fun hholds => absurd hholds hnot⟩, hversion.symm, ⟨nofun, fun heq => absurd heq hne⟩⟩
  simp only [Wire.operators, List.mem_cons, List.not_mem_nil, or_false] at h
  rcases h with rfl | rfl | rfl | rfl | rfl | rfl
  · cases operand with
    | string raw =>
      obtain ⟨hmatched, hversion⟩ := outcome_regex text raw
      exact ⟨.regex (.compile raw), rfl, hmatched, hversion, by simp [expectsAbsence]⟩
    | _ => exact ⟨_, rfl, hmismatched id rfl (by simp)⟩
  · cases operand with
    | string other =>
      exact ⟨.eq other, rfl, by simp [outcome, Outcome.ofBool, Wire.Holds], rfl, by simp [expectsAbsence]⟩
    | _ => exact ⟨_, rfl, hmismatched id rfl (by simp)⟩
  · cases operand with
    | string other =>
      exact ⟨.ne other, rfl, by simp [outcome, Outcome.ofBool, Wire.Holds], rfl, by simp [expectsAbsence]⟩
    | _ => exact ⟨_, rfl, hmismatched id rfl (by simp)⟩
  · cases operand with
    | bool expected =>
      exact ⟨.exists expected, rfl, by simp [outcome, Outcome.ofBool, Wire.Holds], rfl, by simp [expectsAbsence]⟩
    | _ => exact ⟨_, rfl, hmismatched id rfl (by simp)⟩
  · cases operand with
    | array items =>
      refine ⟨.oneOf (items.filterMap Json.string?), rfl, ?_, rfl, by simp [expectsAbsence]⟩
      simp [outcome, Outcome.ofBool, Wire.Holds, ← mem_filterMap_string?]
    | _ => exact ⟨_, rfl, hmismatched id rfl (by simp)⟩
  · cases operand with
    | array items =>
      refine ⟨.noneOf (items.filterMap Json.string?), rfl, ?_, rfl, by simp [expectsAbsence]⟩
      simp [outcome, Outcome.ofBool, Wire.Holds, ← mem_filterMap_string?]
    | _ => exact ⟨_, rfl, hmismatched id rfl (by simp)⟩

/-- The operators of a condition. -/
def ofMembers (members : List (String × Json)) : List Operator := members.filterMap fun m => ofJson? m.1 m.2

theorem ofMembers_cons (m : String × Json) (rest : List (String × Json)) :
    ofMembers (m :: rest) = (ofJson? m.1 m.2).toList ++ ofMembers rest := by
  unfold ofMembers
  rw [List.filterMap_cons]
  cases ofJson? m.1 m.2 <;> rfl

/-- Some operator is compiled if one is written. -/
theorem ofMembers_ne_nil_iff {members : List (String × Json)} :
    ofMembers members ≠ [] ↔ ∃ m ∈ members, m.1 ∈ Wire.operators := by
  constructor
  · intro hne
    obtain ⟨op, hop⟩ := List.exists_mem_of_ne_nil _ hne
    obtain ⟨m, hm, hcompiled⟩ := List.mem_filterMap.mp hop
    refine ⟨m, hm, Classical.byContradiction fun hname => ?_⟩
    rw [ofJson?_eq_none hname] at hcompiled
    cases hcompiled
  · rintro ⟨m, hm, hname⟩
    obtain ⟨op, hop, -⟩ := exists_ofJson? hname m.2 ""
    exact List.ne_nil_of_mem (List.mem_filterMap.mpr ⟨m, hm, hop⟩)

/-- What holds of all compiled operators holds of all that is written under the name of one. -/
theorem forall_compiled_iff {P : Operator → Prop} {Q : String × Json → Prop}
    (h : ∀ m, m.1 ∈ Wire.operators → ∃ op, ofJson? m.1 m.2 = some op ∧ (P op ↔ Q m)) (members : List (String × Json)) :
    (∀ op ∈ ofMembers members, P op) ↔ ∀ m ∈ members, m.1 ∈ Wire.operators → Q m := by
  constructor
  · intro hall m hm hname
    obtain ⟨op, hop, hiff⟩ := h m hname
    exact hiff.mp (hall op (List.mem_filterMap.mpr ⟨m, hm, hop⟩))
  · intro hall op hop
    obtain ⟨m, hm, hcompiled⟩ := List.mem_filterMap.mp hop
    by_cases hname : m.1 ∈ Wire.operators
    · obtain ⟨op', hop', hiff⟩ := h m hname
      obtain rfl := Option.some.inj (hcompiled.symm.trans hop')
      exact hiff.mpr (hall m hm hname)
    · rw [ofJson?_eq_none hname] at hcompiled
      cases hcompiled

theorem operatorVersion_eq_empty {name : String} (h : name ∉ Wire.operators) (text : String) (operand : Json) :
    Wire.operatorVersion text name operand = "" := by
  unfold Wire.operatorVersion
  split
  · exact absurd (by decide) h
  · rfl

/-- The last version of the compiled operators is the last one of those that are written. -/
theorem lastVersion_compiled (text : String) (members : List (String × Json)) :
    Outcome.lastVersion ((ofMembers members).map fun op => (op.outcome text).version) =
      Outcome.lastVersion (members.map fun m => Wire.operatorVersion text m.1 m.2) := by
  induction members with
  | nil => rfl
  | cons m rest ih =>
    rw [List.map_cons, Outcome.lastVersion_cons, ← ih, ofMembers_cons]
    by_cases hname : m.1 ∈ Wire.operators
    · obtain ⟨op, hop, -, hversion, -⟩ := exists_ofJson? hname m.2 text
      rw [hop, Option.toList_some, List.singleton_append, List.map_cons, Outcome.lastVersion_cons, hversion]
    · rw [ofJson?_eq_none hname, operatorVersion_eq_empty hname, Option.toList_none, List.nil_append]
      split
      · assumption
      · rfl

end Operator

/-! ## Conditions -/

namespace Query

variable {p : Page}

/-- The outcome of a condition on a part of a page. -/
theorem outcome_ofField {key text : String} (h : Wire.FieldText p key text) (members : List (String × Json)) :
    (ofField key (.object members)).outcome p =
      if Operator.ofMembers members = [] then .miss
      else if text = "" then .ofBool ((Operator.ofMembers members).all Operator.expectsAbsence)
      else .all ((Operator.ofMembers members).map (Operator.outcome text)) := by
  obtain ⟨hknown, rfl⟩ := Wire.fieldText_iff.mp h
  have hcompiled : ofField key (.object members) = if (Operator.ofMembers members).isEmpty then .never
      else .field (Field.ofPath key) (Operator.ofMembers members) := by
    unfold ofField
    cases hfield : Field.ofPath key with
    | unknown path => exact absurd hfield (hknown path)
    | body => rfl
    | header name => rfl
  rw [hcompiled]
  cases hops : Operator.ofMembers members with
  | nil => rfl
  | cons op rest =>
    rw [if_neg (by simp), if_neg (List.cons_ne_nil op rest), ← Operator.outcomeAll_eq, outcome]
    cases hfield : Field.ofPath key with
    | unknown path => exact absurd hfield (hknown path)
    | body => rfl
    | header name => rfl

/-- A condition on anything else never matches, and neither does one that is not written as an object. -/
theorem outcome_ofField_eq_miss {key : String} {v : Json}
    (h : ¬∃ text members, Wire.FieldText p key text ∧ v = .object members) : (ofField key v).outcome p = .miss := by
  unfold ofField
  split
  · rfl
  · rename_i members hknown
    exact absurd ⟨_, members, Wire.fieldText_iff.mpr ⟨hknown, rfl⟩, rfl⟩ h
  · rfl

/-- A condition matches if it is satisfied. -/
theorem matched_ofField_iff {key text : String} (h : Wire.FieldText p key text) (members : List (String × Json)) :
    ((ofField key (.object members)).outcome p).matched ↔ Wire.Satisfied text members := by
  rw [outcome_ofField h]
  unfold Wire.Satisfied
  by_cases hops : Operator.ofMembers members = []
  · rw [if_pos hops]
    exact ⟨nofun, fun hsat => absurd hops (Operator.ofMembers_ne_nil_iff.mpr hsat.1)⟩
  rw [if_neg hops, and_iff_right (Operator.ofMembers_ne_nil_iff.mp hops)]
  by_cases htext : text = ""
  · have habsence := Operator.forall_compiled_iff (P := fun op => op.expectsAbsence)
      (Q := fun m => m = ("$exists", .bool false)) (fun m hname => by
        obtain ⟨op, hop, -, -, habsence⟩ := Operator.exists_ofJson? hname m.2 text
        exact ⟨op, hop, habsence⟩) members
    rw [if_pos htext, ← habsence]
    simp [htext, Outcome.ofBool]
  · have hholds := Operator.forall_compiled_iff (P := fun op => (op.outcome text).matched)
      (Q := fun m => Wire.Holds text m.1 m.2) (fun m hname => by
        obtain ⟨op, hop, hholds, -⟩ := Operator.exists_ofJson? hname m.2 text
        exact ⟨op, hop, hholds⟩) members
    rw [if_neg htext, ← hholds]
    simp [htext, Outcome.matched_all]

/-- A condition that is satisfied comes with the last version of its operators. -/
theorem version_ofField {key text : String} (h : Wire.FieldText p key text) (members : List (String × Json))
    (hmatched : ((ofField key (.object members)).outcome p).matched) :
    ((ofField key (.object members)).outcome p).version =
      Outcome.lastVersion (members.map fun m => Wire.operatorVersion text m.1 m.2) := by
  obtain ⟨hops, hsat⟩ := (matched_ofField_iff h members).mp hmatched
  rw [outcome_ofField h, if_neg (Operator.ofMembers_ne_nil_iff.mpr hops)] at hmatched ⊢
  rcases hsat with ⟨htext, -⟩ | ⟨htext, habsence⟩
  · rw [if_neg htext] at hmatched ⊢
    rw [Outcome.version_all hmatched, List.map_map]
    exact Operator.lastVersion_compiled text members
  · rw [if_pos htext, Outcome.lastVersion_eq_empty]
    · rfl
    · intro version hversion
      obtain ⟨m, hm, rfl⟩ := List.mem_map.mp hversion
      by_cases hname : m.1 ∈ Wire.operators
      · rw [habsence m hm hname]
        rfl
      · exact Operator.operatorVersion_eq_empty hname text m.2

end Query
end SiteProbe
