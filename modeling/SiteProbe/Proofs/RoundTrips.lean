import SiteProbe.Json.Draft
import SiteProbe.Proofs.JsonTokens

/-!
# JSON texts are read as what was written

The compact text of a value and its indented text have the same tokens (`reads_compress`, `reads_prettyAt`), which
follow from the value alone (`tokensOf`). From them the draft is built that says what the value says
(`foldl_tokensOf`), and reading it gives the value with the members of its objects in key order (`toJson_ofJson`). So
both texts are read as one value (`parse_compress`, `parse_pretty`).
-/

namespace SiteProbe.Json

open Scanner

/-! ## Tokens of values -/

/-- All numbers of a value are whole numbers of 64 bits. -/
inductive Whole : Json → Prop
  | null : Whole .null
  | bool (b : Bool) : Whole (.bool b)
  | number {n : Number} (h : n.IsWhole) : Whole (.number n)
  | string (s : String) : Whole (.string s)
  | array {items : List Json} (h : ∀ v ∈ items, Whole v) : Whole (.array items)
  | object {members : List (String × Json)} (h : ∀ m ∈ members, Whole m.2) : Whole (.object members)

mutual

/-- The tokens of a value. -/
def tokensOf : Json → List Token
  | .null => [.null]
  | .bool b => [.bool b]
  | .number n => [.number (some n)]
  | .string s => [.string (some s)]
  | .array [] => [.openArray, .closeArray]
  | .array (v :: rest) => .openArray :: (tokensOf v ++ (itemTokens rest ++ [.closeArray]))
  | .object [] => [.openObject, .closeObject]
  | .object ((k, v) :: rest) =>
    .openObject :: (.string (some k) :: .colon :: tokensOf v ++ (memberTokens rest ++ [.closeObject]))

/-- The tokens of the items after the first. -/
def itemTokens : List Json → List Token
  | [] => []
  | v :: rest => .comma :: tokensOf v ++ itemTokens rest

/-- The tokens of the members after the first. -/
def memberTokens : List (String × Json) → List Token
  | [] => []
  | (k, v) :: rest => .comma :: .string (some k) :: .colon :: tokensOf v ++ memberTokens rest

end

theorem itemTokens_eq (items : List Json) : itemTokens items = items.flatMap fun v => .comma :: tokensOf v := by
  induction items with
  | nil => rfl
  | cons v rest ih => rw [itemTokens, ih, List.flatMap_cons]

theorem memberTokens_eq (members : List (String × Json)) :
    memberTokens members = members.flatMap fun m => .comma :: .string (some m.1) :: .colon :: tokensOf m.2 := by
  induction members with
  | nil => rfl
  | cons m rest ih => rw [memberTokens, ih, List.flatMap_cons]

/-- Items and members are written as parts, one behind the other. -/
theorem compressItems_eq (items : List Json) :
    compressItems items = String.join (items.map fun v => "," ++ v.compress) := by
  induction items with
  | nil => rfl
  | cons v rest ih => rw [compressItems, ih, List.map_cons, String.join_cons]

theorem compressMembers_eq (members : List (String × Json)) :
    compressMembers members = String.join (members.map fun m => "," ++ (quote m.1 ++ (":" ++ m.2.compress))) := by
  induction members with
  | nil => rfl
  | cons m rest ih =>
    rw [compressMembers, ih, List.map_cons, String.join_cons]
    simp only [String.append_assoc]

theorem prettyItems_eq (level : Nat) (items : List Json) :
    prettyItems level items = String.join (items.map fun v => "," ++ (newline level ++ v.prettyAt level)) := by
  induction items with
  | nil => rfl
  | cons v rest ih =>
    rw [prettyItems, ih, List.map_cons, String.join_cons]
    simp only [String.append_assoc]

theorem prettyMembers_eq (level : Nat) (members : List (String × Json)) :
    prettyMembers level members =
      String.join (members.map fun m => "," ++ (newline level ++ (quote m.1 ++ (": " ++ m.2.prettyAt level)))) := by
  induction members with
  | nil => rfl
  | cons m rest ih =>
    rw [prettyMembers, ih, List.map_cons, String.join_cons]
    simp only [String.append_assoc]

/-- The text of a member has the tokens of its key and its value. -/
theorem Reads.member {s : String} {ts : List Token} (h : Reads s ts) (k : String) {colon : String}
    (hcolon : Scans colon [.colon]) : Reads (quote k ++ (colon ++ s)) (.string (some k) :: .colon :: ts) :=
  (scans_quote k).append_reads (hcolon.append_reads h)

/-- An array with items is read, however its parts are written. -/
theorem reads_array {part : Json → String} {closing : String} {v : Json} {rest : List Json}
    (hparts : ∀ w ∈ v :: rest, Reads (part w) (tokensOf w)) (hclosing : Follows closing [.closeArray]) :
    Reads ("[" ++ (part v ++ (String.join (rest.map fun v => "," ++ part v) ++ closing)))
      (tokensOf (.array (v :: rest))) := by
  have hopening : Scans "[" [.openArray] := fun _ => rfl
  rw [tokensOf, itemTokens_eq]
  exact (hopening.parts hclosing v rest hparts).reads

/-- An object with members is read, however its parts are written. -/
theorem reads_object {part : String × Json → String} {closing : String} {m : String × Json}
    {rest : List (String × Json)}
    (hparts : ∀ w ∈ m :: rest, Reads (part w) (.string (some w.1) :: .colon :: tokensOf w.2))
    (hclosing : Follows closing [.closeObject]) :
    Reads ("\x7b" ++ (part m ++ (String.join (rest.map fun m => "," ++ part m) ++ closing)))
      (tokensOf (.object (m :: rest))) := by
  have hopening : Scans "\x7b" [.openObject] := fun _ => rfl
  rw [tokensOf, memberTokens_eq]
  exact (hopening.parts hclosing m rest hparts).reads

theorem follows_closeArray : Follows "]" [.closeArray] := ⟨fun _ => rfl, 0x5D, [], rfl, rfl⟩

theorem follows_closeObject : Follows "\x7d" [.closeObject] := ⟨fun _ => rfl, 0x7D, [], rfl, rfl⟩

/-- The compact text of a value has its tokens. -/
theorem reads_compress {v : Json} (h : Whole v) : Reads v.compress (tokensOf v) := by
  induction v using Json.inductionOn with
  | null => exact reads_null
  | bool b => exact reads_bool b
  | number n =>
    cases h with
    | number hn => exact reads_number hn
  | string s => exact (scans_quote s).reads
  | array items ih =>
    obtain _ | _ | _ | _ | hitems := h
    have hparts : ∀ v ∈ items, Reads v.compress (tokensOf v) := fun v hv => ih v hv (hitems v hv)
    cases items with
    | nil => exact Scans.reads fun _ => rfl
    | cons v rest =>
      rw [compress, compressItems_eq]
      simpa only [String.append_assoc] using reads_array hparts follows_closeArray
  | object members ih =>
    obtain _ | _ | _ | _ | _ | hmembers := h
    have hparts : ∀ m ∈ members, Reads (quote m.1 ++ (":" ++ m.2.compress))
        (.string (some m.1) :: .colon :: tokensOf m.2) := fun m hm =>
      (ih m hm (hmembers m hm)).member m.1 fun _ => rfl
    cases members with
    | nil => exact Scans.reads fun _ => rfl
    | cons m rest =>
      rw [compress, compressMembers_eq]
      simpa only [String.append_assoc] using reads_object hparts follows_closeObject

/-! ## Indented texts -/

/-- A line break and blanks have no tokens. -/
theorem follows_newline (level : Nat) : Follows (newline level) [] := by
  have hblanks (n : Nat) : Scans (String.ofList (List.replicate n ' ')) [] := by
    intro before
    rw [scan, String.toList_ofList]
    induction n with
    | zero => rfl
    | succ n ih => exact ih
  have hbreak : Follows "\n" [] := ⟨fun _ => rfl, 0x0A, [], rfl, rfl⟩
  exact hbreak.append (hblanks _)

/-- The indented text of a value has its tokens. -/
theorem reads_prettyAt {v : Json} (h : Whole v) (level : Nat) : Reads (v.prettyAt level) (tokensOf v) := by
  induction v using Json.inductionOn generalizing level with
  | null => exact reads_null
  | bool b => exact reads_bool b
  | number n =>
    cases h with
    | number hn => exact reads_number hn
  | string s => exact (scans_quote s).reads
  | array items ih =>
    obtain _ | _ | _ | _ | hitems := h
    have hparts : ∀ v ∈ items, Reads (newline (level + 1) ++ v.prettyAt (level + 1)) (tokensOf v) := fun v hv =>
      (follows_newline (level + 1)).1.append_reads (ih v hv (hitems v hv) (level + 1))
    cases items with
    | nil =>
      rw [prettyAt]
      exact Scans.reads fun _ => rfl
    | cons v rest =>
      rw [prettyAt, prettyItems_eq]
      simpa only [String.append_assoc] using
        reads_array hparts ((follows_newline level).append follows_closeArray.1)
  | object members ih =>
    obtain _ | _ | _ | _ | _ | hmembers := h
    have hparts : ∀ m ∈ members, Reads (newline (level + 1) ++ (quote m.1 ++ (": " ++ m.2.prettyAt (level + 1))))
        (.string (some m.1) :: .colon :: tokensOf m.2) := fun m hm =>
      (follows_newline (level + 1)).1.append_reads ((ih m hm (hmembers m hm) (level + 1)).member m.1 fun _ => rfl)
    cases members with
    | nil =>
      rw [prettyAt]
      exact Scans.reads fun _ => rfl
    | cons m rest =>
      rw [prettyAt, prettyMembers_eq]
      simpa only [String.append_assoc] using
        reads_object hparts ((follows_newline level).append follows_closeObject.1)

/-! ## Drafts -/

section Building

variable {v : Json} {stack : List Frame}

/-- Tokens are built to what a value says, wherever a value may stand. -/
def Builds (v : Json) : Prop :=
  ∀ stack expect, expect = .value ∨ expect = .valueOrClose →
    (tokensOf v).foldl Builder.step (.reading stack expect) = Builder.put (.ofJson v) stack

theorem foldl_itemTokens {rest : List Json} (h : ∀ v ∈ rest, Builds v) (ds : List Draft) :
    (itemTokens rest).foldl Builder.step (.reading (.array ds :: stack) .commaOrClose) =
      .reading (.array ((Draft.ofJsonItems rest).reverse ++ ds) :: stack) .commaOrClose := by
  induction rest generalizing ds with
  | nil => rfl
  | cons v rest ih =>
    obtain ⟨hv, hrest⟩ := List.forall_mem_cons.mp h
    have hcomma : Builder.step (.reading (.array ds :: stack) .commaOrClose) .comma =
      .reading (.array ds :: stack) .value := rfl
    rw [itemTokens, List.cons_append, List.foldl_cons, List.foldl_append, hcomma, hv _ _ (.inl rfl), Builder.put,
      ih hrest, Draft.ofJsonItems, List.reverse_cons, List.append_assoc, List.singleton_append]

theorem foldl_memberTokens {rest : List (String × Json)} (h : ∀ m ∈ rest, Builds m.2)
    (ds : List (Option String × Draft)) :
    (memberTokens rest).foldl Builder.step (.reading (.object ds :: stack) .commaOrClose) =
      .reading (.object ((Draft.ofJsonMembers rest).reverse ++ ds) :: stack) .commaOrClose := by
  induction rest generalizing ds with
  | nil => rfl
  | cons m rest ih =>
    obtain ⟨hm, hrest⟩ := List.forall_mem_cons.mp h
    have hkey (ts : List Token) : (.comma :: .string (some m.1) :: .colon :: ts).foldl Builder.step
        (.reading (.object ds :: stack) .commaOrClose) =
      ts.foldl Builder.step (.reading (.member ds (some m.1) :: stack) .value) := rfl
    rw [memberTokens, List.cons_append, List.cons_append, List.cons_append, hkey, List.foldl_append, hm _ _ (.inl rfl),
      Builder.put, ih hrest, Draft.ofJsonMembers, List.reverse_cons, List.append_assoc, List.singleton_append]

/-- The tokens of a value are built to what it says. -/
theorem foldl_tokensOf (v : Json) : Builds v := by
  induction v using Json.inductionOn with
  | null => rintro stack _ (rfl | rfl) <;> rfl
  | bool b => rintro stack _ (rfl | rfl) <;> rfl
  | number n => rintro stack _ (rfl | rfl) <;> rfl
  | string s => rintro stack _ (rfl | rfl) <;> rfl
  | array items ih =>
    intro stack expect hexpect
    have hopen : Builder.step (.reading stack expect) .openArray = .reading (.array [] :: stack) .valueOrClose := by
      rcases hexpect with rfl | rfl <;> rfl
    cases items with
    | nil =>
      rw [tokensOf, List.foldl_cons, hopen]
      rfl
    | cons v rest =>
      obtain ⟨hv, hrest⟩ := List.forall_mem_cons.mp ih
      rw [tokensOf, List.foldl_cons, hopen, List.foldl_append, List.foldl_append, hv _ _ (.inr rfl), Builder.put,
        foldl_itemTokens hrest, List.foldl_cons, List.foldl_nil]
      simp [Builder.step, Draft.ofJson, Draft.ofJsonItems]
  | object members ih =>
    intro stack expect hexpect
    have hopen : Builder.step (.reading stack expect) .openObject = .reading (.object [] :: stack) .keyOrClose := by
      rcases hexpect with rfl | rfl <;> rfl
    cases members with
    | nil =>
      rw [tokensOf, List.foldl_cons, hopen]
      rfl
    | cons m rest =>
      obtain ⟨hm, hrest⟩ := List.forall_mem_cons.mp ih
      have hkey (ts : List Token) : (.string (some m.1) :: .colon :: ts).foldl Builder.step
          (.reading (.object [] :: stack) .keyOrClose) =
        ts.foldl Builder.step (.reading (.member [] (some m.1) :: stack) .value) := rfl
      rw [tokensOf, List.foldl_cons, hopen, List.cons_append, List.cons_append, hkey, List.foldl_append,
        List.foldl_append, hm _ _ (.inl rfl), Builder.put, foldl_memberTokens hrest, List.foldl_cons, List.foldl_nil]
      simp [Builder.step, Draft.ofJson, Draft.ofJsonMembers]

/-- The draft of a text that has the tokens of a value says what the value says. -/
theorem Reads.draft_eq {text : String} (h : Reads text (tokensOf v)) :
    draft (Utf8.encode text) = (.ofJson v, true) := by
  rw [draft, h.tokens_eq, Builder.start, foldl_tokensOf v [] .value (.inl rfl)]
  rfl

end Building

/-! ## Values that are read -/

mutual

/-- A value with the members of its objects in key order; of two with one key the later one stays. -/
def ordered : Json → Json
  | .array items => .array (orderedItems items)
  | .object members => ofMembers (orderedMembers members)
  | v => v

/-- The items of an array, ordered. -/
def orderedItems : List Json → List Json
  | [] => []
  | v :: rest => v.ordered :: orderedItems rest

/-- The members of an object, with ordered values. -/
def orderedMembers : List (String × Json) → List (String × Json)
  | [] => []
  | (k, v) :: rest => (k, v.ordered) :: orderedMembers rest

end

section Reading

variable {v : Json}

theorem orderedItems_eq (items : List Json) : orderedItems items = items.map ordered := by
  induction items with
  | nil => rfl
  | cons v rest ih => rw [orderedItems, ih, List.map_cons]

theorem orderedMembers_eq (members : List (String × Json)) :
    orderedMembers members = members.map fun m => (m.1, m.2.ordered) := by
  induction members with
  | nil => rfl
  | cons m rest ih => rw [orderedMembers, ih, List.map_cons]

theorem depthItems_le_iff {items : List Json} {n : Nat} : depthItems items ≤ n ↔ ∀ v ∈ items, v.depth ≤ n := by
  induction items with
  | nil => simp [depthItems]
  | cons v rest ih => rw [depthItems, Nat.max_le, ih, List.forall_mem_cons]

theorem depthMembers_le_iff {members : List (String × Json)} {n : Nat} :
    depthMembers members ≤ n ↔ ∀ m ∈ members, m.2.depth ≤ n := by
  induction members with
  | nil => simp [depthMembers]
  | cons m rest ih => rw [depthMembers, Nat.max_le, ih, List.forall_mem_cons]

theorem toJsonItems_ofJsonItems {room : Nat} {items : List Json}
    (h : ∀ v ∈ items, (Draft.ofJson v).toJson room = .ok v.ordered) :
    Draft.toJsonItems room (Draft.ofJsonItems items) = .ok (orderedItems items) := by
  induction items with
  | nil => rfl
  | cons v rest ih =>
    obtain ⟨hv, hrest⟩ := List.forall_mem_cons.mp h
    rw [Draft.ofJsonItems, Draft.toJsonItems, hv, ih hrest]
    rfl

theorem toJsonMembers_ofJsonMembers {room : Nat} {members : List (String × Json)}
    (h : ∀ m ∈ members, (Draft.ofJson m.2).toJson room = .ok m.2.ordered) :
    Draft.toJsonMembers room (Draft.ofJsonMembers members) = .ok (orderedMembers members) := by
  induction members with
  | nil => rfl
  | cons m rest ih =>
    obtain ⟨hm, hrest⟩ := List.forall_mem_cons.mp h
    rw [Draft.ofJsonMembers, Draft.toJsonMembers]
    simp only [hm, ih hrest]
    rfl

/-- A draft that says what a value says is read as the value, if there is room. -/
theorem toJson_ofJson {room : Nat} (h : v.depth < room) : (Draft.ofJson v).toJson room = .ok v.ordered := by
  induction v using Json.inductionOn generalizing room with
  | null => rfl
  | bool b => rfl
  | number n => rfl
  | string s => rfl
  | array items ih =>
    rw [depth] at h
    have hdescend : descend room = .ok (room - 1) := if_neg (by omega)
    have hitems := toJsonItems_ofJsonItems fun v hv =>
      ih v hv (Nat.lt_of_le_of_lt (depthItems_le_iff.mp (Nat.le_refl _) v hv) (Nat.lt_sub_of_add_lt h))
    rw [Draft.ofJson, Draft.toJson, hdescend]
    show (do return array (← Draft.toJsonItems (room - 1) (Draft.ofJsonItems items))) = _
    rw [hitems]
    rfl
  | object members ih =>
    rw [depth] at h
    have hdescend : descend room = .ok (room - 1) := if_neg (by omega)
    have hmembers := toJsonMembers_ofJsonMembers fun m hm =>
      ih m hm (Nat.lt_of_le_of_lt (depthMembers_le_iff.mp (Nat.le_refl _) m hm) (Nat.lt_sub_of_add_lt h))
    rw [Draft.ofJson, Draft.toJson, hdescend]
    show (do return ofMembers (← Draft.toJsonMembers (room - 1) (Draft.ofJsonMembers members))) = _
    rw [hmembers]
    rfl

/-- A text that has the tokens of a value is read as the value. -/
theorem Reads.parse_eq {text : String} (h : Reads text (tokensOf v)) (hdepth : v.depth < depthLimit) :
    parse (Utf8.encode text) = .ok v.ordered := by
  unfold parse decodeText
  rw [h.draft_eq]
  dsimp only
  rw [toJson_ofJson hdepth]
  rfl

/-- The compact text of a value is read as the value. -/
theorem parse_compress (h : Whole v) (hdepth : v.depth < depthLimit) :
    parse (Utf8.encode v.compress) = .ok v.ordered := (reads_compress h).parse_eq hdepth

/-- The indented text of a value is read as the value. -/
theorem parse_pretty (h : Whole v) (hdepth : v.depth < depthLimit) :
    parse (Utf8.encode v.pretty) = .ok v.ordered := (reads_prettyAt h 0).parse_eq hdepth

end Reading
end SiteProbe.Json
