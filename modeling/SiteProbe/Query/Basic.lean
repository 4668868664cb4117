import SiteProbe.Json.Basic
import SiteProbe.Query.Field
import SiteProbe.Query.Pattern

/-!
# Queries

The condition of a rule on a page. A rule writes it as JSON (`Query.ofJson`); whatever is not written as it should be
never matches, so that a mistake can only lose a detection.
-/

namespace SiteProbe

/-- A condition on the value of a field. -/
inductive Operator where
  | regex (pattern : Pattern)
  | eq (value : String)
  | ne (value : String)
  | exists (expected : Bool)
  | oneOf (values : List String)
  | noneOf (values : List String)
  /-- The operator under a name has an operand of the wrong kind. -/
  | mismatched (name : String)
  deriving Repr

/-- A condition on a page. -/
inductive Query where
  | all (queries : List Query)
  | any (queries : List Query)
  | none (queries : List Query)
  | not (query : Query)
  /-- All operators hold of the value of a field. -/
  | field (field : Field) (operators : List Operator)
  | never
  deriving Repr, Inhabited

namespace Operator

/-- The strings of an array; other items are left out. -/
def strings? : Json → Option (List String)
  | .array items => some (items.filterMap Json.string?)
  | _ => Option.none

/-- The operator under a name with an operand; an unknown name gives none. -/
def ofJson? (name : String) (operand : Json) : Option Operator :=
  match name, operand with
  | "$regex", .string s => some (.regex (.compile s))
  | "$eq", .string s => some (.eq s)
  | "$ne", .string s => some (.ne s)
  | "$exists", .bool b => some (.exists b)
  | "$in", v => some (((strings? v).map .oneOf).getD (.mismatched name))
  | "$nin", v => some (((strings? v).map .noneOf).getD (.mismatched name))
  | _, _ => if ["$regex", "$eq", "$ne", "$exists"].contains name then some (.mismatched name) else Option.none

end Operator

namespace Query

/-- The condition on the field at a path. -/
def ofField (path : String) (condition : Json) : Query :=
  match Field.ofPath path, condition with
  | .unknown _, _ => .never
  | f, .object members =>
    let operators := members.filterMap fun m => Operator.ofJson? m.1 m.2
    if operators.isEmpty then .never else .field f operators
  | _, _ => .never

/-- Several conditions hold together, none never do. -/
def conjunction : List Query → Query
  | [] => .never
  | [q] => q
  | qs => .all qs

mutual

/-- The condition that is written as a value. -/
def ofJson : Json → Query
  | .object members => conjunction (ofMembers members)
  | _ => .never

/-- The conditions of the members of an object. -/
def ofMembers : List (String × Json) → List Query
  | [] => []
  | (key, v) :: rest => ofMember key v :: ofMembers rest

/-- The condition of a member of an object. -/
def ofMember (key : String) (v : Json) : Query :=
  if key = "$and" then
    match v with
    | .array items => .all (ofItems items)
    | _ => .never
  else if key = "$or" then
    match v with
    | .array items => .any (ofItems items)
    | _ => .never
  else if key = "$nor" then
    match v with
    | .array items => .none (ofItems items)
    | _ => .never
  else if key = "$not" then
    match v with
    | .object members => .not (conjunction (ofMembers members))
    | _ => .never
  else ofField key v

/-- The conditions of the items of an array. -/
def ofItems : List Json → List Query
  | [] => []
  | v :: rest => ofJson v :: ofItems rest

end

mutual

/-- How many queries lie within each other. -/
def depth : Query → Nat
  | .all qs => depthList qs + 1
  | .any qs => depthList qs + 1
  | .none qs => depthList qs + 1
  | .not q => q.depth + 1
  | .field _ _ => 1
  | .never => 1

/-- The greatest depth of some queries. -/
def depthList : List Query → Nat
  | [] => 0
  | q :: rest => max q.depth (depthList rest)

end

end Query
end SiteProbe
