import SiteProbe.Query.Outcome

/-!
# Outcomes of several parts

The last version of some that is not empty (`Outcome.lastVersion`), the outcome of parts that all have to match
(`Outcome.all`) and that of the first part that matches (`Outcome.first`). An outcome is plain if it has no version
unless it matches; plain outcomes are known by their matches and the versions of these (`Outcome.Plain.ext`).
-/

namespace SiteProbe.Outcome

/-- The last version that is not empty, or an empty one. -/
def lastVersion (versions : List String) : String := (versions.reverse.find? (· ≠ "")).getD ""

/-- All match; the last version counts. -/
def all (os : List Outcome) : Outcome := os.foldr both (hit "")

/-- The outcome of the first that matches. -/
def first (os : List Outcome) : Outcome := (os.find? (·.matched)).getD miss

/-- What does not match has no version. -/
def Plain (o : Outcome) : Prop := ¬o.matched → o.version = ""

variable {o o' : Outcome} {os : List Outcome}

theorem Plain.eq_miss (h : o.Plain) (hnot : ¬o.matched) : o = miss := by
  obtain ⟨matched, version⟩ := o
  obtain rfl : matched = false := by simpa using hnot
  exact congrArg (Outcome.mk false) (h hnot)

/-- Outcomes are the same if they match in the same cases, and then with the same version. -/
theorem Plain.ext (h : o.Plain) (h' : o'.Plain) (hmatched : o.matched ↔ o'.matched)
    (hversion : o.matched → o.version = o'.version) : o = o' := by
  by_cases hm : o.matched
  · obtain ⟨matched, version⟩ := o
    obtain ⟨matched', version'⟩ := o'
    obtain rfl : matched = matched' := by rw [Bool.eq_iff_iff]; exact hmatched
    exact congrArg (Outcome.mk matched) (hversion hm)
  · rw [h.eq_miss hm, h'.eq_miss (mt hmatched.mpr hm)]

theorem plain_miss : miss.Plain := fun _ => rfl

theorem plain_hit (version : String) : (hit version).Plain := fun h => absurd rfl h

theorem plain_ofBool (b : Bool) : (ofBool b).Plain := fun _ => rfl

theorem plain_both (o o' : Outcome) : (o.both o').Plain := by
  unfold both
  split
  · exact plain_hit _
  · exact plain_miss

theorem plain_all (os : List Outcome) : (all os).Plain := by
  cases os with
  | nil => exact plain_hit ""
  | cons o rest => exact plain_both o (all rest)

theorem matched_both : (o.both o').matched ↔ o.matched ∧ o'.matched := by
  unfold both
  cases o.matched <;> cases o'.matched <;> simp [hit, miss]

theorem matched_all : (all os).matched ↔ ∀ o ∈ os, o.matched := by
  induction os with
  | nil => simp [all, hit]
  | cons o rest ih =>
    rw [all, List.foldr_cons, ← all, matched_both, ih, List.forall_mem_cons]

theorem both_assoc (o o' o'' : Outcome) : (o.both o').both o'' = o.both (o'.both o'') := by
  refine (plain_both _ _).ext (plain_both _ _) (by simp only [matched_both, and_assoc]) fun h => ?_
  simp only [matched_both] at h
  obtain ⟨⟨ho, ho'⟩, ho''⟩ := h
  by_cases hversion : o''.version = "" <;> simp [both, hit, ho, ho', ho'', hversion]

theorem hit_both (h : o.Plain) : (hit "").both o = o := by
  refine (plain_both _ _).ext h (by simp [matched_both, hit]) fun hm => ?_
  simp only [matched_both] at hm
  by_cases hversion : o.version = "" <;> simp [both, hit, hm.2, hversion]

/-- Parts that all have to match may be taken together. -/
theorem all_append (os os' : List Outcome) : all (os ++ os') = (all os).both (all os') := by
  induction os with
  | nil => exact (hit_both (plain_all os')).symm
  | cons o rest ih =>
    calc all (o :: (rest ++ os'))
        = o.both ((all rest).both (all os')) := congrArg o.both ih
      _ = (o.both (all rest)).both (all os') := (both_assoc _ _ _).symm

/-- A version counts if none comes behind it. -/
theorem lastVersion_cons (version : String) (rest : List String) :
    lastVersion (version :: rest) = if lastVersion rest = "" then version else lastVersion rest := by
  unfold lastVersion
  rw [List.reverse_cons, List.find?_append]
  cases hlast : rest.reverse.find? (· ≠ "") with
  | none => by_cases h : version = "" <;> simp [h]
  | some last =>
    have hne : last ≠ "" := by simpa using List.find?_some hlast
    simp [hne]

theorem lastVersion_eq_empty {versions : List String} (h : ∀ version ∈ versions, version = "") :
    lastVersion versions = "" := by
  induction versions with
  | nil => rfl
  | cons version rest ih =>
    rw [List.forall_mem_cons] at h
    rw [lastVersion_cons, if_pos (ih h.2), h.1]

/-- The last version that is not empty is one of them. -/
theorem lastVersion_mem {versions : List String} (h : lastVersion versions ≠ "") : lastVersion versions ∈ versions := by
  induction versions with
  | nil => exact absurd rfl h
  | cons version rest ih =>
    rw [lastVersion_cons] at h ⊢
    split
    · exact List.mem_cons_self
    · rename_i hne
      exact List.mem_cons_of_mem version (ih hne)

theorem version_all (h : (all os).matched) : (all os).version = lastVersion (os.map (·.version)) := by
  induction os with
  | nil => rfl
  | cons o rest ih =>
    rw [all, List.foldr_cons, ← all] at h ⊢
    have hboth := matched_both.mp h
    rw [List.map_cons, lastVersion_cons, ← ih hboth.2]
    simp [both, hboth.1, hboth.2, hit]

theorem version_all_eq_empty (h : ∀ o ∈ os, o.version = "") : (all os).version = "" := by
  by_cases hm : (all os).matched
  · rw [version_all hm, lastVersion_eq_empty (List.forall_mem_map.mpr h)]
  · exact plain_all os hm

theorem all_singleton (h : o.Plain) : all [o] = o := by
  refine (plain_all [o]).ext h (by simp [matched_all]) fun hm => ?_
  rw [version_all hm, List.map_singleton, lastVersion_cons]
  exact if_pos rfl

theorem matched_first : (first os).matched = os.any (·.matched) := by
  unfold first
  cases hfind : os.find? (·.matched) with
  | none => simpa [miss] using hfind
  | some o =>
    have ho : o.matched := List.find?_some hfind
    rw [Option.getD_some, ho, eq_comm, List.any_eq_true]
    exact ⟨o, List.mem_of_find?_eq_some hfind, ho⟩

theorem first_cons (o : Outcome) (os : List Outcome) : first (o :: os) = if o.matched then o else first os := by
  unfold first
  rw [List.find?_cons]
  cases o.matched <;> rfl

/-- The first part that matches is among the first ones, or else among the others. -/
theorem first_append (os os' : List Outcome) :
    first (os ++ os') = if (first os).matched then first os else first os' := by
  induction os with
  | nil => rfl
  | cons o rest ih =>
    rw [List.cons_append, first_cons, first_cons, ih]
    cases hm : o.matched <;> simp [hm]

/-- What matches first is one of the parts. -/
theorem first_mem (h : (first os).matched) : first os ∈ os := by
  unfold first at h ⊢
  cases hfind : os.find? (·.matched) with
  | none => rw [hfind] at h; cases h
  | some o => exact List.mem_of_find?_eq_some hfind

theorem plain_first (os : List Outcome) : (first os).Plain := by
  unfold first
  cases hfind : os.find? (·.matched) with
  | none => exact plain_miss
  | some o => exact fun h => absurd (by simpa using List.find?_some hfind) h

theorem version_first_eq_empty (h : ∀ o ∈ os, o.version = "") : (first os).version = "" := by
  by_cases hm : (first os).matched
  · exact h (first os) (first_mem hm)
  · exact plain_first os hm

theorem first_singleton (h : o.Plain) : first [o] = o := by
  rw [first_cons]
  split
  · rfl
  · rename_i hm
    exact (h.eq_miss hm).symm

end SiteProbe.Outcome
