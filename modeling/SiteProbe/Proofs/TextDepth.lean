import SiteProbe.Proofs.Readings
import SiteProbe.Proofs.RoundTrips

/-!
# Depths of texts

The depth of a text is that of its draft. A draft is read as a value only if there is room for it, and then the value is
no deeper (`Draft.gives_toJson`); so a text that is read as a value is less deep than the limit (`gives_parse`).
-/

namespace SiteProbe

namespace Json

namespace Draft

/-- What holds of arrays and objects if it holds of all that lies in them holds of every draft. -/
@[elab_as_elim]
theorem inductionOn {motive : Draft → Prop} (d : Draft) (null : motive .null) (bool : ∀ b, motive (.bool b))
    (number : ∀ n, motive (.number n)) (string : ∀ s, motive (.string s))
    (array : ∀ items, (∀ d ∈ items, motive d) → motive (.array items))
    (object : ∀ members, (∀ m ∈ members, motive m.2) → motive (.object members)) (fault : ∀ f, motive (.fault f)) :
    motive d :=
  match d with
  | .null => null
  | .bool b => bool b
  | .number n => number n
  | .string s => string s
  | .array items => array items fun d hd =>
    have : sizeOf d < sizeOf items := List.sizeOf_lt_of_mem hd
    d.inductionOn null bool number string array object fault
  | .object members => object members fun (k, d) hm =>
    have : 1 + sizeOf k + sizeOf d < sizeOf members := List.sizeOf_lt_of_mem hm
    d.inductionOn null bool number string array object fault
  | .fault f => fault f

mutual

/-- How many arrays and objects of a text lie within each other. -/
def depth : Draft → Nat
  | .array items => depthItems items + 1
  | .object members => depthMembers members + 1
  | _ => 0

/-- The greatest depth of the items of an array. -/
def depthItems : List Draft → Nat
  | [] => 0
  | d :: rest => max d.depth (depthItems rest)

/-- The greatest depth of the values of an object. -/
def depthMembers : List (Option String × Draft) → Nat
  | [] => 0
  | (_, d) :: rest => max d.depth (depthMembers rest)

end

/-- A value is no deeper than its draft, for which there is room. -/
structure Fits (room : Nat) (d : Draft) (v : Json) : Prop where
  value : v.depth ≤ d.depth
  draft : d.depth ≤ room - 1

variable {room : Nat}

theorem gives_toJsonItems {items : List Draft} (h : ∀ d ∈ items, Gives (Fits room d) (d.toJson room)) :
    Gives (fun vs => Json.depthItems vs ≤ depthItems items ∧ depthItems items ≤ room - 1)
      (toJsonItems room items) := by
  induction items with
  | nil => exact .pure ⟨Nat.le_refl 0, Nat.zero_le _⟩
  | cons d rest ih =>
    obtain ⟨hd, hrest⟩ := List.forall_mem_cons.mp h
    rw [toJsonItems]
    refine hd.bind fun v hv => (ih hrest).bind fun vs hvs => .pure ?_
    obtain ⟨hvalue, hdraft⟩ := hv
    obtain ⟨hvalues, hdrafts⟩ := hvs
    rw [Json.depthItems, depthItems]
    omega

theorem gives_toJsonMembers {members : List (Option String × Draft)}
    (h : ∀ m ∈ members, Gives (Fits room m.2) (m.2.toJson room)) :
    Gives (fun vs => Json.depthMembers vs ≤ depthMembers members ∧ depthMembers members ≤ room - 1)
      (toJsonMembers room members) := by
  induction members with
  | nil => exact .pure ⟨Nat.le_refl 0, Nat.zero_le _⟩
  | cons m rest ih =>
    obtain ⟨_ | k, d⟩ := m
    · exact .of_error
    · obtain ⟨hd, hrest⟩ := List.forall_mem_cons.mp h
      change Gives (Fits room d) _ at hd
      rw [toJsonMembers]
      refine hd.bind fun v hv => (ih hrest).bind fun vs hvs => .pure ?_
      obtain ⟨hvalue, hdraft⟩ := hv
      obtain ⟨hvalues, hdrafts⟩ := hvs
      rw [Json.depthMembers, depthMembers]
      omega

/-- An object is no deeper than the members that it is made of, of which some may not stay. -/
theorem depth_ofMembers_le (members : List (String × Json)) :
    (Json.ofMembers members).depth ≤ Json.depthMembers members + 1 := by
  refine Nat.succ_le_succ (Json.depthMembers_le_iff.mpr fun m hm => ?_)
  have hget := Dict.mem_toList_iff.mp hm
  rw [Dict.get?_ofList] at hget
  exact Json.depthMembers_le_iff.mp (Nat.le_refl _) m (Dict.mem_of_latest? hget)

/-- A draft is read as a value only if there is room for it. -/
theorem gives_toJson (d : Draft) : Gives (Fits room d) (d.toJson room) := by
  induction d using inductionOn generalizing room with
  | null => exact .pure ⟨Nat.le_refl 0, Nat.zero_le _⟩
  | bool b => exact .pure ⟨Nat.le_refl 0, Nat.zero_le _⟩
  | number n =>
    cases n with
    | none => exact .of_error
    | some n => exact .pure ⟨Nat.le_refl 0, Nat.zero_le _⟩
  | string s =>
    cases s with
    | none => exact .of_error
    | some s => exact .pure ⟨Nat.le_refl 0, Nat.zero_le _⟩
  | array items ih =>
    rw [toJson]
    refine gives_descend fun hroom => (gives_toJsonItems fun d hd => ih d hd).bind fun vs hvs => .pure ⟨?_, ?_⟩
    · exact Nat.succ_le_succ hvs.1
    · rw [depth]
      omega
  | object members ih =>
    rw [toJson]
    refine gives_descend fun hroom => (gives_toJsonMembers fun m hm => ih m hm).bind fun vs hvs => .pure ⟨?_, ?_⟩
    · exact Nat.le_trans (depth_ofMembers_le vs) (Nat.succ_le_succ hvs.1)
    · rw [depth]
      omega
  | fault f => exact .of_error

end Draft

/-- What is given by reading a text is given by reading its draft. -/
theorem gives_decodeText {α : Type} {P : α → Prop} {decode : Nat → Draft → Except Error α} {bytes : List UInt8}
    (h : Gives P (decode depthLimit (draft bytes).1)) : Gives P (decodeText decode bytes) := by
  unfold decodeText
  generalize draft bytes = read at h ⊢
  obtain ⟨d, clean⟩ := read
  refine h.bind fun a ha => ?_
  cases clean
  · exact .of_error
  · exact .pure ha

/-- A text is read as a value only if the text, and so the value, is less deep than the limit. -/
theorem gives_parse (bytes : List UInt8) :
    Gives (fun v => v.depth ≤ (draft bytes).1.depth ∧ (draft bytes).1.depth < depthLimit) (parse bytes) :=
  gives_decodeText ((Draft.gives_toJson _).mono fun _ hv => ⟨hv.value, Nat.lt_of_le_pred (by decide) hv.draft⟩)

end Json
end SiteProbe
