import SiteProbe.Proofs.LeastClosure

/-!
# Closing early

What implications add are placeholders without versions. A merge passes over them (`Adds.merge`), so that the closure
after a merge is the same whatever of it was added before, on either side (`close_merge_of_adds`). So it does not matter
whether implications are followed before a merge, after it or both times, and no placeholder blocks a version that
comes later (`close_merge_early`).
-/

namespace SiteProbe.Detections

variable {s : Store} {d d' e e' : Detections} {name : String}

/-! ## Placeholders -/

/-- An empty version counts for nothing among others. -/
theorem best_append_empty_cons (versions more : List String) (h : versions ++ more ≠ []) :
    best (versions ++ "" :: more) = best (versions ++ more) := by
  rw [best_of_ne_nil h, best_of_ne_nil (by simp), List.find?_append, List.find?_append,
    List.find?_cons_of_neg (by simp)]

theorem Adds.refl (s : Store) (d : Detections) : Adds s d d where
  kept _ _ := rfl
  added _ hname hnot := absurd hname hnot

/-- Under each name there is what was there before, or a placeholder for something that was missing. -/
theorem Adds.get?_cases (h : Adds s d e) (name : String) :
    e.get? name = d.get? name ∨ d.get? name = none ∧ e.get? name = some "" ∧ name ∈ d.missing s := by
  by_cases hd : d.contains name
  · exact .inl (h.kept name hd)
  have hnone : d.get? name = none := Option.not_isSome_iff_eq_none.mp hd
  by_cases he : e.contains name
  · obtain ⟨hmissing, hempty⟩ := h.added name he hd
    exact .inr ⟨hnone, hempty, hmissing⟩
  · exact .inl ((Option.not_isSome_iff_eq_none.mp he).trans hnone.symm)

/-- What is missing and is not merged either is missing after the merge. -/
theorem missing_merge (h : name ∈ d.missing s ∨ name ∈ d'.missing s) (hnot : ¬(d.merge d').contains name) :
    name ∈ (d.merge d').missing s := by
  refine mem_missing_iff.mpr ⟨?_, hnot⟩
  rcases h with h | h
  · obtain ⟨⟨start, hstart, himplies⟩, -⟩ := mem_missing_iff.mp h
    exact ⟨start, contains_merge.mpr (.inl hstart), himplies⟩
  · obtain ⟨⟨start, hstart, himplies⟩, -⟩ := mem_missing_iff.mp h
    exact ⟨start, contains_merge.mpr (.inr hstart), himplies⟩

/-! ## Merges -/

/-- Under a name that either side of a merge has, placeholders make no difference. -/
theorem Adds.merge_kept (h : Adds s d e) (h' : Adds s d' e') (hname : (d.merge d').contains name) :
    (e.merge e').get? name = (d.merge d').get? name := by
  have hne : (d.get? name).toList ++ (d'.get? name).toList ≠ [] := by
    intro hnil
    rw [Dict.contains, get?_merge, hnil] at hname
    cases hname
  rw [get?_merge, get?_merge]
  rcases h.get?_cases name with he | ⟨hd, he, -⟩
  · rcases h'.get?_cases name with he' | ⟨hd', he', -⟩
    · rw [he, he']
    · rw [hd'] at hne ⊢
      rw [he, he']
      exact best_append_empty_cons _ [] hne
  · rcases h'.get?_cases name with he' | ⟨hd', -⟩
    · rw [hd] at hne ⊢
      rw [he, he']
      exact best_append_empty_cons [] _ hne
    · rw [hd, hd'] at hne
      exact absurd rfl hne

/-- Under a name that neither side had, there is a placeholder for something that is missing in the merge. -/
theorem Adds.merge_added (h : Adds s d e) (h' : Adds s d' e') (hname : (e.merge e').contains name)
    (hnot : ¬(d.merge d').contains name) : name ∈ (d.merge d').missing s ∧ (e.merge e').get? name = some "" := by
  have hd : d.get? name = none := Option.not_isSome_iff_eq_none.mp fun hd => hnot (contains_merge.mpr (.inl hd))
  have hd' : d'.get? name = none := Option.not_isSome_iff_eq_none.mp fun hd' => hnot (contains_merge.mpr (.inr hd'))
  rw [Dict.contains, get?_merge] at hname
  rw [get?_merge]
  rcases h.get?_cases name with he | ⟨-, he, hmissing⟩
  · rcases h'.get?_cases name with he' | ⟨-, he', hmissing'⟩
    · rw [he, he', hd, hd'] at hname
      cases hname
    · rw [he, he', hd]
      exact ⟨missing_merge (.inr hmissing') hnot, rfl⟩
  · refine ⟨missing_merge (.inl hmissing) hnot, ?_⟩
    rcases h'.get?_cases name with he' | ⟨-, he', -⟩
    · rw [he, he', hd']
      rfl
    · rw [he, he']
      rfl

/-- What is added on both sides of a merge is added to the merged detections, and nothing else changes. -/
theorem Adds.merge (h : Adds s d e) (h' : Adds s d' e') : Adds s (d.merge d') (e.merge e') where
  kept _ hname := h.merge_kept h' hname
  added _ hname hnot := h.merge_added h' hname hnot

/-- A closure is reached by adding what is missing. -/
theorem reaches_close (s : Store) (d : Detections) : Relation.ReflTransGen (Adds s) d (d.close s) := by
  induction d using close.induct s with
  | case1 d h =>
    rw [close, dif_pos h]
  | case2 d h ih =>
    rw [close, dif_neg h]
    exact .head (adds_round s d) ih

variable {a a' b b' : Detections}

theorem reaches_merge (ha : Relation.ReflTransGen (Adds s) a a') (hb : Relation.ReflTransGen (Adds s) b b') :
    Relation.ReflTransGen (Adds s) (a.merge b) (a'.merge b') := by
  have hleft : Relation.ReflTransGen (Adds s) (a.merge b) (a'.merge b) :=
    Relation.ReflTransGen.lift (fun d : Detections => d.merge b) (fun _ _ h => h.merge (.refl s b)) _ _ ha
  have hright : Relation.ReflTransGen (Adds s) (a'.merge b) (a'.merge b') :=
    Relation.ReflTransGen.lift (fun d : Detections => a'.merge d) (fun _ _ h => (Adds.refl s a').merge h) _ _ hb
  exact hleft.trans hright

/-- Whatever of a closure was added before a merge, the closure after it is the same. -/
theorem close_merge_of_adds (ha : Relation.ReflTransGen (Adds s) a a') (hb : Relation.ReflTransGen (Adds s) b b') :
    (a'.merge b').close s = (a.merge b).close s := close_eq_of_adds (reaches_merge ha hb)

/-- A version that is merged is in the closure, unless another one was known. -/
theorem get?_close_merge {version : String} (ha : (a.get? name).getD "" = "") (hb : b.get? name = some version) :
    ((a.merge b).close s).get? name = some version := by
  have hcontains : (a.merge b).contains name := by
    refine contains_merge.mpr (.inr ?_)
    rw [Dict.contains, hb, Option.isSome_some]
  rw [(close_isClosure s (a.merge b)).kept name hcontains, get?_merge, hb]
  cases hknown : a.get? name with
  | none => exact best_singleton version
  | some known =>
    obtain rfl : known = "" := by simpa [hknown] using ha
    exact (best_append_empty_cons [] [version] (List.cons_ne_nil version [])).trans (best_singleton version)

/-- For every store and all detections, the closure after a merge is the same if the implications are followed before
the merge as well: on the left, on the right, or on both sides as far as one likes. So a version that is merged is not
blocked by a placeholder under its name. -/
theorem close_merge_early (s : Store) (a b : Detections) :
    ((a.close s).merge b).close s = (a.merge b).close s ∧
    (a.merge (b.close s)).close s = (a.merge b).close s ∧
    (∀ a' b', Relation.ReflTransGen (Adds s) a a' → Relation.ReflTransGen (Adds s) b b' →
      (a'.merge b').close s = (a.merge b).close s) ∧
    ∀ name version, (a.get? name).getD "" = "" → b.get? name = some version →
      (((a.close s).merge b).close s).get? name = some version := by
  have hleft : ((a.close s).merge b).close s = (a.merge b).close s := close_merge_of_adds (reaches_close s a) .refl
  refine ⟨hleft, close_merge_of_adds .refl (reaches_close s b), ?_, ?_⟩
  · exact fun a' b' ha hb => close_merge_of_adds ha hb
  · intro name version ha hb
    rw [hleft]
    exact get?_close_merge ha hb

/-- The other technology of the circle is a placeholder until its version comes. -/
theorem close_merge_early_circle : (shop.close circle).get? "Engine" = some "" ∧
    (((shop.close circle).merge (.ofList [("Engine", "2")])).close circle).get? "Engine" = some "2" ∧
    (merge (shop.insert "Ghost" "") (.ofList [("Engine", "2")])).close circle =
      (shop.merge (.ofList [("Engine", "2")])).close circle := by
  obtain ⟨-, -, hpartly, hversion⟩ := close_merge_early circle shop (.ofList [("Engine", "2")])
  refine ⟨by decide +kernel, hversion "Engine" "2" (by decide +kernel) (by decide +kernel), ?_⟩
  exact hpartly _ _ (.single (adds_insert (by decide +kernel))) .refl

end SiteProbe.Detections
