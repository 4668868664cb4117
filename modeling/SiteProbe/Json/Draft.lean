import SiteProbe.Json.Token

/-!
# Drafts of JSON values

A draft is the shape of a JSON text before anybody asks what it says: strings and numbers that name nothing are kept as
such, members are listed as written, and where the text stops making sense there is a fault in place of a value. So a
reader that goes through a draft from the front meets what is wrong with the text in the order of the text.

A machine with a stack of open arrays and objects builds the draft from the tokens, one token a step
(`Builder.step`). Reading a draft as a value checks it (`Draft.toJson`); skipping it checks its shape alone
(`Draft.fault?`).
-/

namespace SiteProbe.Json

/-- The shape of a JSON text. -/
inductive Draft where
  | null
  | bool (value : Bool)
  | number (value : Option Number)
  | string (value : Option String)
  | array (items : List Draft)
  | object (members : List (Option String × Draft))
  | fault (fault : Fault)
  deriving Repr, Inhabited

/-- An open array or object, its parts last one first. -/
inductive Frame where
  | array (items : List Draft)
  | object (members : List (Option String × Draft))
  /-- An object whose next member has this key. -/
  | member (members : List (Option String × Draft)) (key : Option String)
  deriving Repr

/-- What may come next in the innermost open frame. -/
inductive Expect where
  | value | valueOrClose | commaOrClose | key | keyOrClose | colon
  deriving DecidableEq, Repr

/-- The machine that builds a draft. -/
inductive Builder where
  | reading (stack : List Frame) (expect : Expect)
  /-- The draft is complete; `clean` until something follows it. -/
  | complete (draft : Draft) (clean : Bool)
  deriving Repr

namespace Builder

/-- The builder before the first token. -/
def start : Builder := .reading [] .value

/-- A value is complete. -/
def put (d : Draft) : List Frame → Builder
  | [] => .complete d true
  | .array items :: stack => .reading (.array (d :: items) :: stack) .commaOrClose
  | .object members :: stack => .reading (.object ((some "", d) :: members) :: stack) .commaOrClose
  | .member members key :: stack => .reading (.object ((key, d) :: members) :: stack) .commaOrClose

/-- The draft of a text that breaks off: the fault stands in the innermost open frame. -/
def breakOff (d : Draft) : List Frame → Draft
  | [] => d
  | .array items :: stack => breakOff (.array (d :: items).reverse) stack
  | .object members :: stack => breakOff (.object ((some "", d) :: members).reverse) stack
  | .member members key :: stack => breakOff (.object ((key, d) :: members).reverse) stack

/-- Take up one token. -/
def step (b : Builder) (t : Token) : Builder :=
  match b with
  | .complete d _ => .complete d false
  | .reading stack expect =>
    let isValue := expect = .value || expect = .valueOrClose
    let fail (f : Fault) : Builder := .complete (breakOff (.fault f) stack) true
    match t with
    | .null => if isValue then put .null stack else fail .misplaced
    | .bool v => if isValue then put (.bool v) stack else fail .misplaced
    | .number v => if isValue then put (.number v) stack else fail .misplaced
    | .string v =>
      if isValue then put (.string v) stack
      else
        match expect, stack with
        | .key, .object members :: stack => .reading (.member members v :: stack) .colon
        | .keyOrClose, .object members :: stack => .reading (.member members v :: stack) .colon
        | _, _ => fail .misplaced
    | .openArray => if isValue then .reading (.array [] :: stack) .valueOrClose else fail .misplaced
    | .openObject => if isValue then .reading (.object [] :: stack) .keyOrClose else fail .misplaced
    | .closeArray =>
      match expect, stack with
      | .valueOrClose, .array items :: stack => put (.array items.reverse) stack
      | .commaOrClose, .array items :: stack => put (.array items.reverse) stack
      | _, _ => fail .misplaced
    | .closeObject =>
      match expect, stack with
      | .keyOrClose, .object members :: stack => put (.object members.reverse) stack
      | .commaOrClose, .object members :: stack => put (.object members.reverse) stack
      | _, _ => fail .misplaced
    | .comma =>
      match expect, stack with
      | .commaOrClose, .array items :: stack => .reading (.array items :: stack) .value
      | .commaOrClose, .object members :: stack => .reading (.object members :: stack) .key
      | _, _ => fail .misplaced
    | .colon => if expect = .colon then .reading stack .value else fail .misplaced
    | .fault f => fail f

/-- The draft when no token is left, and whether nothing followed it. -/
def finish : Builder → Draft × Bool
  | .complete d clean => (d, clean)
  | .reading stack _ => (breakOff (.fault .endOfText) stack, true)

end Builder

/-- The draft of a text, and whether nothing followed it. -/
def draft (bytes : List UInt8) : Draft × Bool := ((tokens bytes).foldl Builder.step .start).finish

/-- Why a text or a value is not what was asked for. -/
inductive Error where
  | malformed (fault : Fault)
  | trailing
  | badString
  | badNumber
  | tooDeep
  | wrongType (expected : String)
  | missingField (name : String)
  | duplicateField (name : String)
  | tooLong
  | custom (text : String)
  deriving DecidableEq, Repr

/-- The words of an error. -/
def Error.message : Error → String
  | .malformed f => f.message
  | .trailing => "trailing characters"
  | .badString => "invalid unicode code point"
  | .badNumber => "number out of range"
  | .tooDeep => "recursion limit exceeded"
  | .wrongType expected => "invalid type, expected " ++ expected
  | .missingField name => "missing field " ++ name
  | .duplicateField name => "duplicate field " ++ name
  | .tooLong => "trailing elements"
  | .custom text => text

/-- How many arrays and objects a text may open within each other, counting one that it may not. -/
def depthLimit : Nat := 128

/-- The room left within an array or object. -/
def descend (room : Nat) : Except Error Nat := if room ≤ 1 then .error .tooDeep else .ok (room - 1)

namespace Draft

mutual

/-- The first fault of a draft. -/
def fault? : Draft → Option Fault
  | .fault f => some f
  | .array items => faultItems? items
  | .object members => faultMembers? members
  | _ => none

/-- The first fault of the items of an array. -/
def faultItems? : List Draft → Option Fault
  | [] => none
  | d :: rest => d.fault? <|> faultItems? rest

/-- The first fault of the members of an object. -/
def faultMembers? : List (Option String × Draft) → Option Fault
  | [] => none
  | (_, d) :: rest => d.fault? <|> faultMembers? rest

end

/-- Pass over a value. -/
def skip (d : Draft) : Except Error Unit :=
  match d.fault? with
  | some f => .error (.malformed f)
  | none => .ok ()

mutual

/-- The value of a draft. -/
def toJson (room : Nat) : Draft → Except Error Json
  | .null => .ok .null
  | .bool v => .ok (.bool v)
  | .number (some v) => .ok (.number v)
  | .number none => .error .badNumber
  | .string (some v) => .ok (.string v)
  | .string none => .error .badString
  | .array items => do return .array (← toJsonItems (← descend room) items)
  | .object members => do return Json.ofMembers (← toJsonMembers (← descend room) members)
  | .fault f => .error (.malformed f)

/-- The values of the items of an array. -/
def toJsonItems (room : Nat) : List Draft → Except Error (List Json)
  | [] => .ok []
  | d :: rest => do
    let v ← d.toJson room
    return v :: (← toJsonItems room rest)

/-- The members of an object. -/
def toJsonMembers (room : Nat) : List (Option String × Draft) → Except Error (List (String × Json))
  | [] => .ok []
  | (k, d) :: rest => do
    let some k := k | .error .badString
    let v ← d.toJson room
    return (k, v) :: (← toJsonMembers room rest)

end

mutual

/-- The draft that says exactly what a value says. -/
def ofJson : Json → Draft
  | .null => .null
  | .bool v => .bool v
  | .number v => .number (some v)
  | .string v => .string (some v)
  | .array items => .array (ofJsonItems items)
  | .object members => .object (ofJsonMembers members)

/-- The drafts of the items of an array. -/
def ofJsonItems : List Json → List Draft
  | [] => []
  | v :: rest => ofJson v :: ofJsonItems rest

/-- The drafts of the members of an object. -/
def ofJsonMembers : List (String × Json) → List (Option String × Draft)
  | [] => []
  | (k, v) :: rest => (some k, ofJson v) :: ofJsonMembers rest

end

end Draft

/-- Read a whole text with a decoder of drafts, which is told how deep it may go. -/
def decodeText {α : Type} (decode : Nat → Draft → Except Error α) (bytes : List UInt8) : Except Error α := do
  let (d, clean) := draft bytes
  let v ← decode depthLimit d
  if clean then return v else throw .trailing

/-- Read a value that is at hand with a decoder of drafts; nothing limits its depth. -/
def decodeValue {α : Type} (decode : Nat → Draft → Except Error α) (v : Json) : Except Error α :=
  decode (v.depth + 1) (.ofJson v)

/-- Read a text as a value. -/
def parse (bytes : List UInt8) : Except Error Json := decodeText Draft.toJson bytes

end SiteProbe.Json
