import SiteProbe.Dict
import SiteProbe.Json.Binary64

/-!
# JSON values

Objects list their members; the reader gives them in increasing key order, without repetition. `depth` counts the
levels of arrays and objects.
-/

namespace SiteProbe

/-- A JSON number: a whole number of 64 bits, signed or not, or a binary64. -/
inductive Json.Number where
  | integer (value : Int)
  | float (value : Binary64)
  deriving DecidableEq, Repr

/-- A JSON value. -/
inductive Json where
  | null
  | bool (value : Bool)
  | number (value : Json.Number)
  | string (value : String)
  | array (items : List Json)
  | object (members : List (String × Json))
  deriving Repr, Inhabited

namespace Json

/-- What holds of arrays and objects if it holds of all that lies in them holds of every value. -/
@[elab_as_elim]
theorem inductionOn {motive : Json → Prop} (v : Json) (null : motive .null) (bool : ∀ b, motive (.bool b))
    (number : ∀ n, motive (.number n)) (string : ∀ s, motive (.string s))
    (array : ∀ items, (∀ v ∈ items, motive v) → motive (.array items))
    (object : ∀ members, (∀ m ∈ members, motive m.2) → motive (.object members)) : motive v :=
  match v with
  | .null => null
  | .bool b => bool b
  | .number n => number n
  | .string s => string s
  | .array items => array items fun v hv =>
    have : sizeOf v < sizeOf items := List.sizeOf_lt_of_mem hv
    v.inductionOn null bool number string array object
  | .object members => object members fun (k, v) hm =>
    have : 1 + sizeOf k + sizeOf v < sizeOf members := List.sizeOf_lt_of_mem hm
    v.inductionOn null bool number string array object

mutual

/-- How many arrays and objects lie within each other. -/
def depth : Json → Nat
  | .array items => depthItems items + 1
  | .object members => depthMembers members + 1
  | _ => 0

/-- The greatest depth of the items of an array. -/
def depthItems : List Json → Nat
  | [] => 0
  | v :: rest => max v.depth (depthItems rest)

/-- The greatest depth of the values of an object. -/
def depthMembers : List (String × Json) → Nat
  | [] => 0
  | (_, v) :: rest => max v.depth (depthMembers rest)

end

/-- The object with the given members, in key order; of two with one key the later one stays. -/
def ofMembers (members : List (String × Json)) : Json := .object (Dict.ofList members).toList

/-- The members of an object. -/
def members? : Json → Option (List (String × Json))
  | .object members => some members
  | _ => none

/-- The value of an object's member. -/
def get? (v : Json) (key : String) : Option Json := v.members?.bind (Dict.lookup key)

/-- The text of a string. -/
def string? : Json → Option String
  | .string s => some s
  | _ => none

/-- A whole number. -/
def ofNat (n : Nat) : Json := .number (.integer n)

/-- A whole number that fits a word. -/
def ofWord (n : UInt32) : Json := ofNat n.toNat

end Json
end SiteProbe
