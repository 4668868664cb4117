import Mathlib.Logic.Relation
import SiteProbe.Proofs.Entries

/-!
# Closures under implication

What is detected implies more, and that implies more again. Adding what is missing round by round reaches all that is
implied in any number of steps, and nothing else (`close_isClosure`): what was detected stays as it is, and what is
added has no version. There is only one such closure (`IsClosure.unique`).
-/

namespace SiteProbe

/-- A technology implies another one. -/
def Store.Implies (s : Store) (a b : String) : Prop := b ∈ s.impliesOf a

namespace Detections

variable {s : Store} {d e : Detections}

/-- Some detections and all that they imply. -/
structure IsClosure (s : Store) (d e : Detections) : Prop where
  contains_iff : ∀ name, e.contains name ↔ ∃ start, d.contains start ∧ Relation.ReflTransGen s.Implies start name
  kept : ∀ name, d.contains name → e.get? name = d.get? name
  added : ∀ name, e.contains name → ¬d.contains name → e.get? name = some ""

/-- Detections have one closure. -/
theorem IsClosure.unique {e' : Detections} (h : IsClosure s d e) (h' : IsClosure s d e') : e = e' := by
  refine Dict.ext_get? fun name => ?_
  by_cases hd : d.contains name
  · rw [h.kept name hd, h'.kept name hd]
  · have hiff : e.contains name ↔ e'.contains name := (h.contains_iff name).trans (h'.contains_iff name).symm
    by_cases he : e.contains name
    · rw [h.added name he hd, h'.added name (hiff.mp he) hd]
    · have he' : ¬e'.contains name := fun hc => he (hiff.mpr hc)
      rw [Option.not_isSome_iff_eq_none.mp he, Option.not_isSome_iff_eq_none.mp he']

/-! ## Rounds -/

theorem get?_insertAll_unversioned (names : List String) (d : Detections) (name : String) :
    (d.insertAll (names.map fun n => (n, ""))).get? name = if name ∈ names then some "" else d.get? name := by
  induction names generalizing d with
  | nil => rfl
  | cons n rest ih =>
    have hstep : d.insertAll ((n :: rest).map fun n => (n, "")) =
        (d.insert n "").insertAll (rest.map fun n => (n, "")) := rfl
    rw [hstep, ih, Dict.get?_insert]
    by_cases hrest : name ∈ rest
    · simp [hrest]
    · by_cases hn : name = n <;> simp [hrest, hn]

/-- What is missing is implied by what is there, and is not there. -/
theorem mem_missing_iff {name : String} :
    name ∈ d.missing s ↔ (∃ start, d.contains start ∧ s.Implies start name) ∧ ¬d.contains name := by
  unfold missing Store.Implies
  rw [List.mem_filter, List.mem_flatMap, Bool.not_eq_true', Bool.not_eq_true]
  simp only [Dict.contains_iff]

theorem get?_round (name : String) :
    (d.round s).get? name = if name ∈ d.missing s then some "" else d.get? name :=
  get?_insertAll_unversioned (d.missing s) d name

theorem contains_round {name : String} : (d.round s).contains name ↔ name ∈ d.missing s ∨ d.contains name := by
  unfold Dict.contains
  rw [get?_round]
  by_cases h : name ∈ d.missing s <;> simp [h]

/-- Some of what is missing is added, without versions, and nothing else changes. -/
structure Adds (s : Store) (d e : Detections) : Prop where
  kept : ∀ name, d.contains name → e.get? name = d.get? name
  added : ∀ name, e.contains name → ¬d.contains name → name ∈ d.missing s ∧ e.get? name = some ""

theorem Adds.contains (h : Adds s d e) {name : String} (hname : d.contains name) : e.contains name := by
  rw [Dict.contains, h.kept name hname]
  exact hname

/-- A round adds all that is missing. -/
theorem adds_round (s : Store) (d : Detections) : Adds s d (d.round s) where
  kept name hname := by
    rw [get?_round, if_neg]
    exact fun hmissing => (mem_missing_iff.mp hmissing).2 hname
  added name hname hnot := by
    have hmissing := (contains_round.mp hname).resolve_right hnot
    exact ⟨hmissing, by rw [get?_round, if_pos hmissing]⟩

/-- Where nothing is missing, all that is implied is there. -/
theorem isClosure_self (h : d.missing s = []) : IsClosure s d d where
  contains_iff name := by
    constructor
    · exact fun hname => ⟨name, hname, .refl⟩
    · rintro ⟨start, hstart, hreach⟩
      induction hreach with
      | refl => exact hstart
      | tail _ himplies ih =>
        refine Decidable.byContradiction fun hnot => ?_
        have hmissing := mem_missing_iff.mpr ⟨⟨_, ih, himplies⟩, hnot⟩
        rw [h] at hmissing
        cases hmissing
  kept _ _ := rfl
  added _ hname hnot := absurd hname hnot

/-- What is added is implied in one step, so the closure afterwards is the closure before. -/
theorem IsClosure.of_adds {c : Detections} (hadds : Adds s d c) (h : IsClosure s c e) : IsClosure s d e where
  contains_iff name := by
    rw [h.contains_iff]
    constructor
    · rintro ⟨start, hstart, hreach⟩
      by_cases hd : d.contains start
      · exact ⟨start, hd, hreach⟩
      · obtain ⟨⟨first, hfirst, himplies⟩, -⟩ := mem_missing_iff.mp (hadds.added start hstart hd).1
        exact ⟨first, hfirst, .head himplies hreach⟩
    · rintro ⟨start, hstart, hreach⟩
      exact ⟨start, hadds.contains hstart, hreach⟩
  kept name hname := by
    rw [h.kept name (hadds.contains hname), hadds.kept name hname]
  added name hname hnot := by
    by_cases hc : c.contains name
    · rw [h.kept name hc, (hadds.added name hc hnot).2]
    · exact h.added name hname hc

/-- Adding all that is missing until nothing is gives the closure. -/
theorem close_isClosure (s : Store) (d : Detections) : IsClosure s d (d.close s) := by
  induction d using close.induct s with
  | case1 d h =>
    rw [close, dif_pos h]
    exact isClosure_self h
  | case2 d h ih =>
    rw [close, dif_neg h]
    exact ih.of_adds (adds_round s d)

end Detections
end SiteProbe
