import SiteProbe.Json.Basic
import SiteProbe.Proofs.Outcomes

/-!
# The rules of written queries

What a query that is written as JSON says of a page, without a word on how it is compiled or in which order its parts
are looked at. A reading gives every value, and every entry of an object, an outcome on the page; the rules say of which
parts the outcome is made (`Wire.IsReading`). There is at most one reading (`Wire.IsReading.unique`).
-/

namespace SiteProbe.Wire

/-- The keys that put queries together. -/
def combinators : List String := ["$and", "$or", "$nor", "$not"]

/-- The names of operators. -/
def operators : List String := ["$regex", "$eq", "$ne", "$exists", "$in", "$nin"]

/-- A key stands for a part of a page, whose text is empty if the page does not have it. -/
inductive FieldText (p : Page) : String → String → Prop
  | body : FieldText p "body" p.body
  | header {name : String} : name ≠ "" → FieldText p ("headers." ++ name) ((p.header? name).getD "")

/-- An operator, written with an operand of its kind, holds of a text. -/
def Holds (text name : String) (operand : Json) : Prop :=
  match name, operand with
  | "$regex", .string raw => ((Pattern.compile raw).firstMatch? text).isSome
  | "$eq", .string other => text = other
  | "$ne", .string other => text ≠ other
  | "$exists", .bool expected => expected
  | "$in", .array items => .string text ∈ items
  | "$nin", .array items => .string text ∉ items
  | _, _ => False

/-- The version that comes with an operator: what the first group of a marked pattern covers. -/
def operatorVersion (text name : String) (operand : Json) : String :=
  match name, operand with
  | "$regex", .string raw =>
    if (Pattern.compile raw).hasMarker then (((Pattern.compile raw).firstMatch? text).bind (·.version?)).getD "" else ""
  | _, _ => ""

/-- A condition with operators is satisfied: either there is a text and all operators hold of it, or there is none and
all operators expect that. -/
def Satisfied (text : String) (members : List (String × Json)) : Prop :=
  (∃ m ∈ members, m.1 ∈ operators) ∧
    (text ≠ "" ∧ (∀ m ∈ members, m.1 ∈ operators → Holds text m.1 m.2) ∨
      text = "" ∧ ∀ m ∈ members, m.1 ∈ operators → m = ("$exists", .bool false))

/-- A reading of values, and of entries of objects, on a page follows the rules: when something matches, and the version
that comes with it then. -/
structure IsReading (p : Page) (value : Json → Outcome) (entry : String → Json → Outcome) : Prop where
  object_matched : ∀ v, (value v).matched ↔
    ∃ members, v = .object members ∧ members ≠ [] ∧ ∀ m ∈ members, (entry m.1 m.2).matched
  object_version : ∀ members, (value (.object members)).matched →
    (value (.object members)).version = Outcome.lastVersion (members.map fun m => (entry m.1 m.2).version)
  and_matched : ∀ v, (entry "$and" v).matched ↔ ∃ items, v = .array items ∧ ∀ w ∈ items, (value w).matched
  and_version : ∀ items, (entry "$and" (.array items)).matched →
    (entry "$and" (.array items)).version = Outcome.lastVersion (items.map fun w => (value w).version)
  or_matched : ∀ v, (entry "$or" v).matched ↔ ∃ items, v = .array items ∧ ∃ w ∈ items, (value w).matched
  or_version : ∀ items, (entry "$or" (.array items)).version = (Outcome.first (items.map value)).version
  nor_matched : ∀ v, (entry "$nor" v).matched ↔ ∃ items, v = .array items ∧ ∀ w ∈ items, ¬(value w).matched
  nor_version : ∀ v, (entry "$nor" v).version = ""
  not_matched : ∀ v, (entry "$not" v).matched ↔ (∃ members, v = .object members) ∧ ¬(value v).matched
  not_version : ∀ v, (entry "$not" v).version = ""
  field_matched : ∀ key v, key ∉ combinators → ((entry key v).matched ↔
    ∃ text members, FieldText p key text ∧ v = .object members ∧ Satisfied text members)
  field_version : ∀ key text members, key ∉ combinators → FieldText p key text →
    (entry key (.object members)).matched → (entry key (.object members)).version =
      Outcome.lastVersion (members.map fun m => operatorVersion text m.1 m.2)
  value_plain : ∀ v, (value v).Plain
  entry_plain : ∀ key v, (entry key v).Plain

namespace IsReading

variable {p : Page} {value value₂ : Json → Outcome} {entry entry₂ : String → Json → Outcome} {v : Json}

variable (h : IsReading p value entry) (h' : IsReading p value₂ entry₂)
include h h'

/-- Readings that agree on the entries of an object agree on the object. -/
theorem value_unique (hentries : ∀ members, v = .object members → ∀ m ∈ members, entry m.1 m.2 = entry₂ m.1 m.2) :
    value v = value₂ v := by
  have hiff : (value v).matched ↔ (value₂ v).matched := by
    rw [h.object_matched, h'.object_matched]
    refine exists_congr fun members => and_congr_right fun hv => and_congr_right fun _ =>
      forall_congr' fun m => forall_congr' fun hm => ?_
    rw [hentries members hv m hm]
  refine (h.value_plain v).ext (h'.value_plain v) hiff fun hmatched => ?_
  obtain ⟨members, rfl, -⟩ := (h.object_matched v).mp hmatched
  rw [h.object_version members hmatched, h'.object_version members (hiff.mp hmatched)]
  exact congrArg _ (List.map_congr_left fun m hm => by rw [hentries members rfl m hm])

theorem and_unique (hitems : ∀ items, v = .array items → ∀ w ∈ items, value w = value₂ w) :
    entry "$and" v = entry₂ "$and" v := by
  have hiff : (entry "$and" v).matched ↔ (entry₂ "$and" v).matched := by
    rw [h.and_matched, h'.and_matched]
    refine exists_congr fun items => and_congr_right fun hv => forall_congr' fun w => forall_congr' fun hw => ?_
    rw [hitems items hv w hw]
  refine (h.entry_plain _ v).ext (h'.entry_plain _ v) hiff fun hmatched => ?_
  obtain ⟨items, rfl, -⟩ := (h.and_matched v).mp hmatched
  rw [h.and_version items hmatched, h'.and_version items (hiff.mp hmatched)]
  exact congrArg _ (List.map_congr_left fun w hw => by rw [hitems items rfl w hw])

theorem or_unique (hitems : ∀ items, v = .array items → ∀ w ∈ items, value w = value₂ w) :
    entry "$or" v = entry₂ "$or" v := by
  have hiff : (entry "$or" v).matched ↔ (entry₂ "$or" v).matched := by
    rw [h.or_matched, h'.or_matched]
    refine exists_congr fun items => and_congr_right fun hv => exists_congr fun w => and_congr_right fun hw => ?_
    rw [hitems items hv w hw]
  refine (h.entry_plain _ v).ext (h'.entry_plain _ v) hiff fun hmatched => ?_
  obtain ⟨items, rfl, -⟩ := (h.or_matched v).mp hmatched
  rw [h.or_version, h'.or_version, List.map_congr_left (hitems items rfl)]

theorem nor_unique (hitems : ∀ items, v = .array items → ∀ w ∈ items, value w = value₂ w) :
    entry "$nor" v = entry₂ "$nor" v := by
  refine (h.entry_plain _ v).ext (h'.entry_plain _ v) ?_ fun _ => (h.nor_version v).trans (h'.nor_version v).symm
  rw [h.nor_matched, h'.nor_matched]
  refine exists_congr fun items => and_congr_right fun hv => forall_congr' fun w => forall_congr' fun hw => ?_
  rw [hitems items hv w hw]

theorem not_unique (hvalue : value v = value₂ v) : entry "$not" v = entry₂ "$not" v := by
  refine (h.entry_plain _ v).ext (h'.entry_plain _ v) ?_ fun _ => (h.not_version v).trans (h'.not_version v).symm
  rw [h.not_matched, h'.not_matched, hvalue]

theorem field_unique {key : String} (hkey : key ∉ combinators) : entry key v = entry₂ key v := by
  have hiff : (entry key v).matched ↔ (entry₂ key v).matched := by
    rw [h.field_matched key v hkey, h'.field_matched key v hkey]
  refine (h.entry_plain _ v).ext (h'.entry_plain _ v) hiff fun hmatched => ?_
  obtain ⟨text, members, htext, rfl, -⟩ := (h.field_matched key v hkey).mp hmatched
  rw [h.field_version key text members hkey htext hmatched,
    h'.field_version key text members hkey htext (hiff.mp hmatched)]

/-- Readings that agree on a value, and on the items of an array, agree on what stands under a key. -/
theorem entry_unique (hvalue : value v = value₂ v)
    (hitems : ∀ items, v = .array items → ∀ w ∈ items, value w = value₂ w) (key : String) :
    entry key v = entry₂ key v := by
  by_cases hkey : key ∈ combinators
  · simp only [combinators, List.mem_cons, List.not_mem_nil, or_false] at hkey
    rcases hkey with rfl | rfl | rfl | rfl
    · exact and_unique h h' hitems
    · exact or_unique h h' hitems
    · exact nor_unique h h' hitems
    · exact not_unique h h' hvalue
  · exact field_unique h h' hkey

/-- Readings that agree on all that lies in a value agree on the value. -/
theorem unique_step (hmembers : ∀ members, v = .object members → ∀ m ∈ members, entry m.1 m.2 = entry₂ m.1 m.2)
    (hitems : ∀ items, v = .array items → ∀ w ∈ items, value w = value₂ w) :
    value v = value₂ v ∧ ∀ key, entry key v = entry₂ key v :=
  have hvalue := value_unique h h' hmembers
  ⟨hvalue, entry_unique h h' hvalue hitems⟩

/-- Two readings agree on all values and entries. -/
theorem unique (v : Json) : value v = value₂ v ∧ ∀ key, entry key v = entry₂ key v := by
  induction v using Json.inductionOn with
  | array items ih =>
    refine h.unique_step h' (fun _ heq => nomatch heq) fun items' heq w hw => ?_
    cases heq
    exact (ih w hw).1
  | object members ih =>
    refine h.unique_step h' (fun members' heq m hm => ?_) fun _ heq => nomatch heq
    cases heq
    exact (ih m hm).2 m.1
  | _ => exact h.unique_step h' (fun _ heq => nomatch heq) fun _ heq => nomatch heq

end IsReading
end SiteProbe.Wire
