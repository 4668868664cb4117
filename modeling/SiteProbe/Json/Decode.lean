import SiteProbe.Json.Draft

/-!
# Decoders

Decoders of drafts: strings, whole numbers, optional values, lists, dictionaries and records. A record is written as an
object, whose unknown members are passed over, or as an array of its fields in order; either way its fields are taken
up one after the other (`record`), so that the first thing wrong in the text is the error.
-/

namespace SiteProbe.Json.Draft

variable {α σ : Type}

/-- What stands in a draft instead of the expected kind of value. -/
def mismatch (expected : String) (d : Draft) : Except Error α :=
  match d with
  | .fault f => .error (.malformed f)
  | .string none => .error .badString
  | .number none => .error .badNumber
  | _ => .error (.wrongType expected)

/-- A string. -/
def text : Draft → Except Error String
  | .string (some s) => .ok s
  | d => d.mismatch "a string"

/-- A whole number of 32 bits. -/
def word32 : Draft → Except Error UInt32
  | .number (some (.integer n)) =>
    if 0 ≤ n ∧ n < 4294967296 then .ok (.ofNat n.toNat) else .error (.wrongType "u32")
  | d => d.mismatch "u32"

/-- A value or null. -/
def optional (decode : Draft → Except Error α) : Draft → Except Error (Option α)
  | .null => .ok none
  | d => some <$> decode d

/-- An array of values of one kind. -/
def list (decode : Nat → Draft → Except Error α) (room : Nat) : Draft → Except Error (List α)
  | .array items => do
    let room ← descend room
    items.mapM (decode room)
  | d => d.mismatch "a sequence"

/-- The members of an object, in the order of the text. -/
def entries (decode : Nat → Draft → Except Error α) (room : Nat) : Draft → Except Error (List (String × α))
  | .object members => do
    let room ← descend room
    members.mapM fun (k, d) => do
      let some k := k | throw .badString
      return (k, ← decode room d)
  | d => d.mismatch "a map"

/-- An object whose members are of one kind. -/
def dict (decode : Nat → Draft → Except Error α) (room : Nat) (d : Draft) : Except Error (Dict String α) :=
  Dict.ofList <$> d.entries decode room

/-- Take up the members of a record in order. -/
def recordMembers (known : String → Bool) (take : σ → String → Draft → Except Error σ) (s : σ) :
    List (Option String × Draft) → Except Error σ
  | [] => .ok s
  | (none, _) :: _ => .error .badString
  | (some k, d) :: rest =>
    if known k then do recordMembers known take (← take s k d) rest
    else do d.skip; recordMembers known take s rest

/-- Take up the items of a record that is written as an array of its fields. -/
def recordItems (take : σ → String → Draft → Except Error σ) (s : σ) :
    List String → List Draft → Except Error σ
  | _, [] => .ok s
  | [], d :: _ => do d.skip; throw .tooLong
  | k :: ks, d :: rest => do recordItems take (← take s k d) ks rest

/-- A record with the given fields, some of which have a second name: `take` enters a field's draft, decoded with the
room that is left, into what is known so far. -/
def record (name : String) (fields aliases : List String) (take : Nat → σ → String → Draft → Except Error σ)
    (start : σ) (room : Nat) : Draft → Except Error σ
  | .object members => do
    let room ← descend room
    recordMembers (fun k => fields.contains k || aliases.contains k) (take room) start members
  | .array items => do
    let room ← descend room
    recordItems (take room) start fields items
  | d => d.mismatch ("struct " ++ name)

/-- Enter a field that must not have been entered before. -/
def once (old : Option α) (name : String) (new : Except Error α) : Except Error (Option α) :=
  match old with
  | some _ => .error (.duplicateField name)
  | none => some <$> new

end SiteProbe.Json.Draft
