import Mathlib.Logic.Basic
import SiteProbe.Proofs.Places

/-!
# Queries that are written in another way

Two queries that have one outcome on every page can stand for each other (`Query.Interchangeable`), versions included.
So conjunctions and disjunctions may be nested or flat, negations of several queries may be spelled out, and a threefold
negation is a single one (`Query.interchangeable_restructured`).
-/

namespace SiteProbe.Query

/-- Two queries can stand for each other: whatever lies around them, they have the same outcome on every page. -/
def Interchangeable (q q' : Query) : Prop :=
  ∀ (place : List Frame) (p : Page), (q.inside place).outcome p = (q'.inside place).outcome p

/-- It is enough that they have the same outcome by themselves. -/
theorem interchangeable_of_outcome {q q' : Query} (h : ∀ p, q.outcome p = q'.outcome p) : Interchangeable q q' :=
  fun place p => outcome_inside_congr (h p) place

variable (p : Page)

/-! ## Nesting -/

theorem outcome_all_nested (before qs after : List Query) :
    (all (before ++ all qs :: after)).outcome p = (all (before ++ qs ++ after)).outcome p := by
  have hcons (o : Outcome) (os : List Outcome) : Outcome.all (o :: os) = o.both (.all os) := rfl
  simp only [outcome, outcomeAll_eq, List.map_append, List.map_cons, Outcome.all_append, hcons, Outcome.both_assoc]

theorem outcome_any_nested (before qs after : List Query) :
    (any (before ++ any qs :: after)).outcome p = (any (before ++ qs ++ after)).outcome p := by
  simp only [outcome, outcomeAny_eq, List.map_append, List.map_cons, Outcome.first_append, Outcome.first_cons,
    List.append_assoc]

theorem outcome_all_singleton (q : Query) : (all [q]).outcome p = q.outcome p := by
  rw [outcome, outcomeAll_eq]
  exact Outcome.all_singleton (plain_outcome p q)

theorem outcome_any_singleton (q : Query) : (any [q]).outcome p = q.outcome p := by
  rw [outcome, outcomeAny_eq]
  exact Outcome.first_singleton (plain_outcome p q)

/-! ## Negation -/

theorem version_not (q : Query) : ((not q).outcome p).version = "" := rfl

/-- Queries without versions are the same if they match the same pages. -/
theorem outcome_eq_of_unversioned {q q' : Query} (hmatched : (q.outcome p).matched ↔ (q'.outcome p).matched)
    (hq : (q.outcome p).version = "") (hq' : (q'.outcome p).version = "") : q.outcome p = q'.outcome p :=
  (plain_outcome p q).ext (plain_outcome p q') hmatched fun _ => hq.trans hq'.symm

/-- Negations have no version. -/
theorem version_of_mem_map_not {qs : List Query} : ∀ o ∈ (qs.map not).map (outcome p), o.version = "" := by
  rw [List.map_map, List.forall_mem_map]
  exact fun q _ => version_not p q

theorem outcome_none_eq_all_not (qs : List Query) : (none qs).outcome p = (all (qs.map not)).outcome p := by
  refine outcome_eq_of_unversioned p ?_ rfl ?_
  · rw [matched_none, matched_all, List.forall_mem_map]
    simp only [matched_not, not_exists, not_and]
  · rw [outcome, outcomeAll_eq]
    exact Outcome.version_all_eq_empty (version_of_mem_map_not p)

theorem outcome_not_all (qs : List Query) : (not (all qs)).outcome p = (any (qs.map not)).outcome p := by
  refine outcome_eq_of_unversioned p ?_ rfl ?_
  · rw [matched_not, matched_all, matched_any]
    simp only [List.mem_map, exists_exists_and_eq_and, matched_not, not_forall, exists_prop]
  · rw [outcome, outcomeAny_eq]
    exact Outcome.version_first_eq_empty (version_of_mem_map_not p)

theorem outcome_not_not_not (q : Query) : (not (not (not q))).outcome p = (not q).outcome p :=
  outcome_eq_of_unversioned p (by simp only [matched_not, not_not]) rfl rfl

/-! ## All ways -/

/-- At every place in a query, and with the version that comes with it: a conjunction in a conjunction and a
disjunction in a disjunction may be spread out wherever they stand, one that holds a single query is that query, none of
some queries is the negation of any of them and all of their negations, the negation of all is any of the negations, and
three negations are one. Two negations match what the query matches, but take its version away. -/
theorem interchangeable_restructured :
    (∀ before qs after, Interchangeable (all (before ++ all qs :: after)) (all (before ++ qs ++ after))) ∧
    (∀ before qs after, Interchangeable (any (before ++ any qs :: after)) (any (before ++ qs ++ after))) ∧
    (∀ q, Interchangeable (all [q]) q) ∧
    (∀ q, Interchangeable (any [q]) q) ∧
    (∀ qs, Interchangeable (none qs) (not (any qs))) ∧
    (∀ qs, Interchangeable (none qs) (all (qs.map not))) ∧
    (∀ qs, Interchangeable (not (all qs)) (any (qs.map not))) ∧
    (∀ q, Interchangeable (not (not (not q))) (not q)) ∧
    ∀ q p, ((not (not q)).outcome p).matched = (q.outcome p).matched ∧ ((not (not q)).outcome p).version = "" := by
  refine ⟨fun before qs after => interchangeable_of_outcome fun p => outcome_all_nested p before qs after,
    fun before qs after => interchangeable_of_outcome fun p => outcome_any_nested p before qs after,
    fun q => interchangeable_of_outcome fun p => outcome_all_singleton p q,
    fun q => interchangeable_of_outcome fun p => outcome_any_singleton p q,
    fun qs => interchangeable_of_outcome fun p => rfl,
    fun qs => interchangeable_of_outcome fun p => outcome_none_eq_all_not p qs,
    fun qs => interchangeable_of_outcome fun p => outcome_not_all p qs,
    fun q => interchangeable_of_outcome fun p => outcome_not_not_not p q, fun q p => ⟨?_, version_not p (not q)⟩⟩
  rw [Bool.eq_iff_iff, matched_not, matched_not, not_not]

end SiteProbe.Query
