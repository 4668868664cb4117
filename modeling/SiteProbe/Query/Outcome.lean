import SiteProbe.Query.Basic

/-!
# Outcomes of queries

Whether a query matches a page, and the version that comes with a match (`Query.outcome`). A field without a value
matches only where it is expected to be missing.
-/

namespace SiteProbe

/-- Whether something matched, and the version that came with it, empty if none did. -/
structure Outcome where
  matched : Bool
  version : String
  deriving DecidableEq, Repr

namespace Outcome

/-- No match. -/
def miss : Outcome := ⟨false, ""⟩

/-- A match with a version. -/
def hit (version : String) : Outcome := ⟨true, version⟩

/-- A match or not, without a version. -/
def ofBool (matched : Bool) : Outcome := ⟨matched, ""⟩

/-- Both match; the later version counts if there is one. -/
def both (a b : Outcome) : Outcome :=
  if a.matched && b.matched then hit (if b.version = "" then a.version else b.version) else miss

end Outcome

namespace Pattern

/-- A text matches a pattern; the version is what the first group covers if the pattern is marked. -/
def outcome (p : Pattern) (text : String) : Outcome :=
  match p.firstMatch? text with
  | some m => .hit (if p.hasMarker then m.version?.getD "" else "")
  | none => .miss

end Pattern

namespace Operator

/-- An operator on a value that is not empty. -/
def outcome (value : String) : Operator → Outcome
  | .regex p => p.outcome value
  | .eq v => .ofBool (value = v)
  | .ne v => .ofBool (value ≠ v)
  | .exists expected => .ofBool expected
  | .oneOf vs => .ofBool (vs.contains value)
  | .noneOf vs => .ofBool (!vs.contains value)
  | .mismatched _ => .miss

/-- Whether an operator expects that there is no value. -/
def expectsAbsence : Operator → Bool
  | .exists expected => !expected
  | _ => false

/-- All operators hold of a value; the last version counts. -/
def outcomeAll (value : String) : List Operator → Outcome
  | [] => .hit ""
  | op :: rest => (op.outcome value).both (outcomeAll value rest)

end Operator

namespace Query

/-- The operators on the value of a field, which may be missing. -/
def fieldOutcome (p : Page) (f : Field) (ops : List Operator) : Outcome :=
  match f, ops with
  | .unknown _, _ => .miss
  | _, [] => .miss
  | f, ops =>
    if f.value p = "" then .ofBool (ops.all Operator.expectsAbsence) else Operator.outcomeAll (f.value p) ops

mutual

/-- The outcome of a query on a page. -/
def outcome (p : Page) : Query → Outcome
  | .all qs => outcomeAll p qs
  | .any qs => outcomeAny p qs
  | .none qs => .ofBool (!(outcomeAny p qs).matched)
  | .not q => .ofBool (!(q.outcome p).matched)
  | .field f ops => fieldOutcome p f ops
  | .never => .miss

/-- All queries match; the last version counts. -/
def outcomeAll (p : Page) : List Query → Outcome
  | [] => .hit ""
  | q :: rest => (q.outcome p).both (outcomeAll p rest)

/-- The outcome of the first query that matches. -/
def outcomeAny (p : Page) : List Query → Outcome
  | [] => .miss
  | q :: rest =>
    let first := q.outcome p
    if first.matched then first else outcomeAny p rest

end

end Query
end SiteProbe
