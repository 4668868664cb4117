import SiteProbe.Proofs.Closure

/-!
# Updates of detections

Of all versions that are supplied for a technology the first one that is not empty counts (`get?_updateAll`), so that
updates, merges and closures keep the names and the known versions (`Keeps`).
-/

namespace SiteProbe.Detections

variable {d e : Detections} {name : String}

/-- What remains of versions that are supplied one after the other: the first one that is not empty, or an empty one. -/
def best (versions : List String) : Option String :=
  if versions = [] then none else some ((versions.find? (· ≠ "")).getD "")

theorem best_singleton (version : String) : best [version] = some version := by
  by_cases h : version = "" <;> simp [best, h]

theorem best_toList (known : Option String) : best known.toList = known := by
  cases known with
  | none => rfl
  | some v => exact best_singleton v

theorem best_eq_none_iff {versions : List String} : best versions = none ↔ versions = [] := by
  unfold best
  split <;> simp_all

theorem best_of_ne_nil {versions : List String} (h : versions ≠ []) :
    best versions = some ((versions.find? (· ≠ "")).getD "") := if_neg h

/-- What remains of some versions can stand for all of them. -/
theorem best_append (versions more : List String) :
    best ((best versions).toList ++ more) = best (versions ++ more) := by
  by_cases h : versions = []
  · rw [h]
    rfl
  · rw [best_of_ne_nil h, Option.toList_some, List.singleton_append, best_of_ne_nil (List.cons_ne_nil _ _),
      best_of_ne_nil (List.append_ne_nil_of_left_ne_nil h more), List.find?_append, List.find?_cons]
    cases hfind : versions.find? (· ≠ "") with
    | none => simp
    | some found =>
      have hne : found ≠ "" := by simpa using List.find?_some hfind
      simp [hne]

/-- A known version outlasts what is supplied behind it. -/
theorem best_cons_of_ne {version : String} (h : version ≠ "") (more : List String) :
    best (version :: more) = some version := by
  simp [best, h]

/-! ## Updates -/

/-- An update supplies one version more. -/
theorem get?_update_eq_best (d : Detections) (name version other : String) :
    (d.update name version).1.get? other =
      if name = other then best ((d.get? other).toList ++ [version]) else d.get? other := by
  rw [get?_update]
  by_cases h : name = other
  · subst h
    cases hd : d.get? name with
    | none => simp [isNews, best_singleton]
    | some v => by_cases hv : v = "" <;> by_cases hversion : version = "" <;> simp [isNews, best, hv, hversion]
  · rw [if_neg h, if_neg fun hc => h hc.1.symm]

/-- After updates, a technology has what remains of all versions that were supplied for it. -/
theorem get?_updateAll (d : Detections) (es : List (String × String)) (name : String) :
    (d.updateAll es).get? name = best ((d.get? name).toList ++ (es.filter fun e => e.1 = name).map (·.2)) := by
  induction es generalizing d with
  | nil => simp [updateAll, best_toList]
  | cons e rest ih =>
    have hstep : d.updateAll (e :: rest) = (d.update e.1 e.2).1.updateAll rest := rfl
    rw [hstep, ih, get?_update_eq_best]
    by_cases h : e.1 = name
    · simp only [h, if_true, decide_true, List.filter_cons_of_pos, List.map_cons]
      rw [best_append, List.append_assoc, List.singleton_append]
    · rw [if_neg h, List.filter_cons_of_neg (by simpa using h)]

theorem updateAll_append (d : Detections) (es fs : List (String × String)) :
    d.updateAll (es ++ fs) = (d.updateAll es).updateAll fs := List.foldl_append

/-- A merge supplies the versions of the other detections behind those that are there. -/
theorem get?_merge (d e : Detections) (name : String) :
    (d.merge e).get? name = best ((d.get? name).toList ++ (e.get? name).toList) := by
  rw [merge, get?_updateAll, Dict.filter_toList, List.map_map]
  exact congrArg (fun versions => best ((d.get? name).toList ++ versions)) (List.map_id _)

/-! ## What is kept -/

/-- All names are kept, and so are all versions that are known. -/
def Keeps (d e : Detections) : Prop :=
  ∀ name version, d.get? name = some version → ∃ version', e.get? name = some version' ∧
    (version ≠ "" → version' = version)

namespace Keeps

theorem refl (d : Detections) : Keeps d d := fun _ version h => ⟨version, h, fun _ => rfl⟩

theorem trans {c : Detections} (h : Keeps c d) (h' : Keeps d e) : Keeps c e := by
  intro name version hc
  obtain ⟨version', hd, heq⟩ := h name version hc
  obtain ⟨version'', he, heq'⟩ := h' name version' hd
  refine ⟨version'', he, fun hne => ?_⟩
  obtain rfl := heq hne
  exact heq' hne

theorem contains (h : Keeps d e) (hname : d.contains name) : e.contains name := by
  obtain ⟨version, hversion⟩ := Option.isSome_iff_exists.mp hname
  obtain ⟨version', hversion', -⟩ := h name version hversion
  rw [Dict.contains, hversion', Option.isSome_some]

end Keeps

theorem keeps_updateAll (d : Detections) (es : List (String × String)) : Keeps d (d.updateAll es) := by
  intro name version h
  rw [get?_updateAll, h, Option.toList_some, List.singleton_append]
  by_cases hne : version = ""
  · exact ⟨_, best_of_ne_nil (List.cons_ne_nil _ _), fun hne' => absurd hne hne'⟩
  · exact ⟨version, best_cons_of_ne hne _, fun _ => rfl⟩

theorem keeps_merge (d e : Detections) : Keeps d (d.merge e) := keeps_updateAll d e.toList

theorem get?_merge_of_not_contains (h : ¬d.contains name) : (d.merge e).get? name = e.get? name := by
  rw [get?_merge, Option.not_isSome_iff_eq_none.mp h, Option.toList_none, List.nil_append, best_toList]

/-- What is there after a merge was there before, or comes from the other detections. -/
theorem contains_merge : (d.merge e).contains name ↔ d.contains name ∨ e.contains name := by
  by_cases h : d.contains name
  · exact ⟨fun _ => .inl h, fun _ => (keeps_merge d e).contains h⟩
  · rw [Dict.contains, get?_merge_of_not_contains h]
    exact (or_iff_right h).symm

/-- A closure changes nothing that was there. -/
theorem keeps_close (s : Store) (d : Detections) : Keeps d (d.close s) := by
  intro name version h
  have hcontains : d.contains name := by rw [Dict.contains, h, Option.isSome_some]
  exact ⟨version, ((close_isClosure s d).kept name hcontains).trans h, fun _ => rfl⟩

end SiteProbe.Detections
