import SiteProbe.Proofs.Compiling

/-!
# Places in queries

A place in a query is what lies around it, from the outside in (`Query.inside`). What stands at a place counts by its
outcome alone (`Query.outcome_inside_congr`), and what is proved for each query that stands in another one is proved for
all places by induction on the frames.
-/

namespace SiteProbe.Query

/-- What holds of all that is put together from queries for which it holds, and of conditions, holds of every query. -/
@[elab_as_elim]
theorem inductionOn {motive : Query → Prop} (q : Query) (all : ∀ qs, (∀ q ∈ qs, motive q) → motive (.all qs))
    (any : ∀ qs, (∀ q ∈ qs, motive q) → motive (.any qs)) (none : ∀ qs, (∀ q ∈ qs, motive q) → motive (.none qs))
    (not : ∀ q, motive q → motive (.not q)) (field : ∀ f ops, motive (.field f ops)) (never : motive .never) :
    motive q :=
  match q with
  | .all qs => all qs fun q hq =>
    have : sizeOf q < sizeOf qs := List.sizeOf_lt_of_mem hq
    q.inductionOn all any none not field never
  | .any qs => any qs fun q hq =>
    have : sizeOf q < sizeOf qs := List.sizeOf_lt_of_mem hq
    q.inductionOn all any none not field never
  | .none qs => none qs fun q hq =>
    have : sizeOf q < sizeOf qs := List.sizeOf_lt_of_mem hq
    q.inductionOn all any none not field never
  | .not q => not q (q.inductionOn all any none not field never)
  | .field f ops => field f ops
  | .never => never

/-! ## Matches of queries that are put together -/

section Matches

variable {p : Page} {q : Query} {qs : List Query}

theorem matched_all : ((all qs).outcome p).matched ↔ ∀ q ∈ qs, (q.outcome p).matched := by
  rw [outcome, outcomeAll_eq, Outcome.matched_all, List.forall_mem_map]

theorem matched_any : ((any qs).outcome p).matched ↔ ∃ q ∈ qs, (q.outcome p).matched := by
  rw [outcome, outcomeAny_eq, Outcome.matched_first]
  simp

theorem matched_none : ((none qs).outcome p).matched ↔ ¬∃ q ∈ qs, (q.outcome p).matched := by
  rw [← matched_any]
  simp [outcome, Outcome.ofBool]

theorem matched_not : ((not q).outcome p).matched ↔ ¬(q.outcome p).matched := by
  simp [outcome, Outcome.ofBool]

theorem not_matched_never : ¬(never.outcome p).matched := by
  rw [outcome]
  exact Bool.false_ne_true

end Matches

/-! ## Frames and places -/

/-- What lies around a query that stands directly in another one. -/
inductive Frame where
  | all (before after : List Query)
  | any (before after : List Query)
  | none (before after : List Query)
  | not

namespace Frame

/-- Put a query into a frame. -/
def fill (q : Query) : Frame → Query
  | .all before after => .all (before ++ q :: after)
  | .any before after => .any (before ++ q :: after)
  | .none before after => .none (before ++ q :: after)
  | .not => .not q

/-- Whether what stands in a frame is negated. -/
def negates : Frame → Bool
  | .all _ _ | .any _ _ => false
  | .none _ _ | .not => true

theorem outcome_fill_congr {p : Page} {q q' : Query} (h : q.outcome p = q'.outcome p) (frame : Frame) :
    (frame.fill q).outcome p = (frame.fill q').outcome p := by
  cases frame <;> simp [fill, outcome, outcomeAll_eq, outcomeAny_eq, h]

end Frame

/-- A query at a place, which is given by the frames around it, from the outside in. -/
def inside (q : Query) : List Frame → Query
  | [] => q
  | frame :: rest => frame.fill (q.inside rest)

/-- How many negations lie around a place. -/
def negations (place : List Frame) : Nat := place.countP Frame.negates

theorem inside_append (q : Query) (outer inner : List Frame) :
    q.inside (outer ++ inner) = (q.inside inner).inside outer := by
  induction outer with
  | nil => rfl
  | cons frame rest ih => exact congrArg frame.fill ih

/-- Queries with one outcome can stand for each other at all places. -/
theorem outcome_inside_congr {p : Page} {q q' : Query} (h : q.outcome p = q'.outcome p) (place : List Frame) :
    (q.inside place).outcome p = (q'.inside place).outcome p := by
  induction place with
  | nil => exact h
  | cons frame rest ih => exact Frame.outcome_fill_congr ih frame

end SiteProbe.Query
