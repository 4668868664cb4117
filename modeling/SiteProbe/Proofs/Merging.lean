import SiteProbe.Proofs.Updates

/-!
# Merges of detections

A merge has the names of both sides, and of each name the version on the left if one is known there, or else the one on
the right (`IsMerge`). Only one map is like that (`IsMerge.unique`), so that the laws of merges are read off names and
versions: to merge is associative and idempotent, and to merge nothing changes nothing (`merge_idempotent_monoid`). The
order of two maps makes a difference only for a name with two known versions (`merge_comm_iff`).
-/

namespace SiteProbe.Detections

variable {a b c m m' : Detections}

/-- The version that is known of a technology, empty if there is none. -/
def known (d : Detections) (name : String) : String := (d.get? name).getD ""

/-- Some detections are a merge of two: they have the names of both, and of each name the known version on the left, or
else the one on the right. -/
structure IsMerge (a b m : Detections) : Prop where
  names : ∀ name, m.contains name ↔ a.contains name ∨ b.contains name
  versions : ∀ name, m.known name = if a.known name = "" then b.known name else a.known name

/-- What is looked up is what is known of a technology that was detected. -/
theorem get?_eq_known (d : Detections) (name : String) :
    d.get? name = if d.contains name then some (d.known name) else none := by
  unfold known Dict.contains
  cases d.get? name <;> rfl

theorem known_of_not_contains {d : Detections} {name : String} (h : ¬d.contains name) : d.known name = "" := by
  rw [known, Option.not_isSome_iff_eq_none.mp h]
  rfl

/-- Detections are known by their names and versions. -/
theorem ext_known (hnames : ∀ name, m.contains name ↔ m'.contains name)
    (hversions : ∀ name, m.known name = m'.known name) : m = m' := by
  apply Dict.ext_get?
  intro name
  rw [get?_eq_known, get?_eq_known, hversions name, Bool.eq_iff_iff.mpr (hnames name)]

/-- Two maps have one merge. -/
theorem IsMerge.unique (h : IsMerge a b m) (h' : IsMerge a b m') : m = m' := by
  apply ext_known
  · intro name
    rw [h.names, h'.names]
  · intro name
    rw [h.versions, h'.versions]

/-! ## Laws -/

theorem known_merge (a b : Detections) (name : String) :
    (a.merge b).known name = if a.known name = "" then b.known name else a.known name := by
  unfold known
  rw [get?_merge]
  cases a.get? name with
  | none => simp [best_toList]
  | some v =>
    by_cases hv : v = ""
    · subst hv
      cases b.get? name with
      | none => simp [best]
      | some w => by_cases hw : w = "" <;> simp [best, hw]
    · simp [best_cons_of_ne hv, hv]

theorem isMerge_merge (a b : Detections) : IsMerge a b (a.merge b) where
  names _ := contains_merge
  versions := known_merge a b

theorem isMerge_iff : IsMerge a b m ↔ m = a.merge b := by
  constructor
  · intro h
    exact h.unique (isMerge_merge a b)
  · rintro rfl
    exact isMerge_merge a b

theorem isMerge_self (a : Detections) : IsMerge a a a where
  names _ := or_self_iff.symm
  versions _ := (ite_self _).symm

theorem isMerge_empty_left (a : Detections) : IsMerge .empty a a where
  names name := by simp [Dict.contains]
  versions name := by simp [known]

theorem isMerge_empty_right (a : Detections) : IsMerge a .empty a where
  names name := by simp [Dict.contains]
  versions name := by
    by_cases h : a.known name = ""
    · rw [if_pos h, h]
      rfl
    · rw [if_neg h]

/-- A merge of three is one, however they are put together. -/
theorem isMerge_assoc (a b c : Detections) : IsMerge (a.merge b) c (a.merge (b.merge c)) where
  names name := by
    rw [contains_merge, contains_merge, contains_merge, or_assoc]
  versions name := by
    rw [known_merge, known_merge, known_merge]
    by_cases h : a.known name = "" <;> simp [h]

/-! ## Order -/

/-- No technology has one known version on one side and another one on the other side. -/
def Agree (a b : Detections) : Prop :=
  ∀ name version version', a.get? name = some version → b.get? name = some version' →
    version ≠ "" → version' ≠ "" → version = version'

/-- Sides that agree can be merged in either order, and no others. -/
theorem merge_comm_iff : a.merge b = b.merge a ↔ Agree a b := by
  constructor
  · intro hcomm name version version' ha hb hne hne'
    have hknown : (a.merge b).known name = (b.merge a).known name := congrArg (known · name) hcomm
    rw [known_merge, known_merge, known, known, ha, hb, Option.getD_some, Option.getD_some, if_neg hne,
      if_neg hne'] at hknown
    exact hknown
  · intro hagree
    refine (isMerge_iff.mp ⟨fun name => ?_, fun name => ?_⟩).symm
    · rw [contains_merge, or_comm]
    · rw [known_merge]
      by_cases ha : a.known name = ""
      · by_cases hb : b.known name = "" <;> simp [ha, hb]
      by_cases hb : b.known name = ""
      · simp [ha, hb]
      -- both versions are known, and so they are the same
      have hversion (d : Detections) (hd : d.known name ≠ "") : d.get? name = some (d.known name) := by
        rw [get?_eq_known, if_pos]
        exact Classical.byContradiction fun hnot => hd (known_of_not_contains hnot)
      have hsame : a.known name = b.known name := hagree name _ _ (hversion a ha) (hversion b hb) ha hb
      simp [hsame]

/-- For all detections: to merge is idempotent and associative, with the empty map as its unit on either side; a merge
is the map with the names of both sides and, of each name, the known version on the left or else the one on the right;
and the order of two sides makes no difference if and only if no technology has two known versions in them. -/
theorem merge_idempotent_monoid (a b c : Detections) :
    a.merge a = a ∧
    (a.merge b).merge c = a.merge (b.merge c) ∧
    merge .empty a = a ∧
    a.merge .empty = a ∧
    (∀ m, m = a.merge b ↔ IsMerge a b m) ∧
    (∀ name, (a.merge b).get? name =
      if a.contains name ∨ b.contains name then
        some (if a.known name ≠ "" then a.known name else b.known name)
      else none) ∧
    (a.merge b = b.merge a ↔ Agree a b) := by
  refine ⟨(isMerge_iff.mp (isMerge_self a)).symm, (isMerge_iff.mp (isMerge_assoc a b c)).symm,
    (isMerge_iff.mp (isMerge_empty_left a)).symm, (isMerge_iff.mp (isMerge_empty_right a)).symm,
    fun m => isMerge_iff.symm, fun name => ?_, merge_comm_iff⟩
  simp only [get?_eq_known, contains_merge, known_merge, ite_not]

end SiteProbe.Detections
