import SiteProbe.Proofs.RoundTrips
import SiteProbe.Rule.Fingerprint

/-!
# Implied names

The names that a fingerprint implies are written as one string with commas or as a list (`Fingerprint.impliesOfJson`).
Both spellings give the same names (`Fingerprint.implies_spellings`), as a text that was joined with commas is cut at
the commas into what was joined (`Text.pieces_intercalate`).
-/

namespace SiteProbe

namespace Text

theorem pieces_eq_splitOnP (separates : Char → Bool) (cs : List Char) :
    pieces separates cs = cs.splitOnP separates := by
  induction cs with
  | nil => rfl
  | cons c rest ih =>
    rw [pieces, List.splitOnP_cons_eq_if_modifyHead, ih]
    split
    · rfl
    · split
      · rename_i h
        exact absurd h (List.splitOnP_ne_nil separates rest)
      · rename_i h
        rw [h, List.modifyHead_cons]

/-- Texts without a character that are joined with it are what stands between its places. -/
theorem pieces_intercalate {c : Char} {texts : List (List Char)} (hne : texts ≠ []) (h : ∀ t ∈ texts, c ∉ t) :
    pieces (· = c) ([c].intercalate texts) = texts := by
  rw [pieces_eq_splitOnP]
  exact List.splitOn_intercalate c h hne

end Text

namespace Fingerprint

theorem mem_cleanNames {names : List String} {n : String} :
    n ∈ cleanNames names ↔ n ∈ names.map Text.trim ∧ n ≠ "" := by
  rw [cleanNames, List.mem_filter, decide_eq_true_iff]

/-- A name has no blank at its ends. -/
theorem edges_of_mem_cleanNames {names : List String} {n : String} (h : n ∈ cleanNames names) :
    ∀ c, c ∈ n.toList.head? ∨ c ∈ n.toList.getLast? → Text.isBlank c = false := by
  obtain ⟨s, -, rfl⟩ := List.mem_map.mp (mem_cleanNames.mp h).1
  rw [Text.toList_trim]
  rintro c (hc | hc)
  · exact Text.head?_trimChars s.toList c hc
  · exact Text.getLast?_trimChars s.toList c hc

/-- A string with commas implies what was joined. -/
theorem impliesOfJson_intercalate {names : List String} (h : ∀ n ∈ names, ',' ∉ n.toList) :
    impliesOfJson (.string (",".intercalate names)) = .ok (cleanNames names) := by
  rw [impliesOfJson, String.toList_intercalate]
  cases names with
  | nil => rfl
  | cons n rest =>
    have hpieces : Text.pieces (· = ',') (",".toList.intercalate ((n :: rest).map String.toList)) =
        (n :: rest).map String.toList :=
      Text.pieces_intercalate (List.cons_ne_nil _ _) (List.forall_mem_map.mpr h)
    rw [hpieces, List.map_map]
    simp [Function.comp_def]

/-- A list implies its strings. -/
theorem impliesOfJson_strings (names : List String) :
    impliesOfJson (.array (names.map .string)) = .ok (cleanNames names) := by
  rw [impliesOfJson, List.filterMap_map]
  simp [Function.comp_def, Json.string?]

/-- What is decoded are trimmed names, whatever was written. -/
theorem eq_cleanNames_of_impliesOfJson {v : Json} {names : List String} (h : impliesOfJson v = .ok names) :
    ∃ written, names = cleanNames written := by
  cases v with
  | null => exact ⟨[], (Except.ok.inj h).symm⟩
  | string s => exact ⟨_, (Except.ok.inj h).symm⟩
  | array items => exact ⟨_, (Except.ok.inj h).symm⟩
  | bool b => cases h
  | number n => cases h
  | object members => cases h

/-- Only null, strings and arrays say what is implied. -/
theorem exists_impliesOfJson_eq_error_iff {v : Json} : (∃ e, impliesOfJson v = .error e) ↔
    (∃ n, v = .number n) ∨ (∃ b, v = .bool b) ∨ ∃ members, v = .object members := by
  cases v <;> simp [impliesOfJson]

/-! ## Implied names in a fingerprint -/

theorem string?_ordered (v : Json) : v.ordered.string? = v.string? := by
  cases v <;> rfl

/-- The order of members makes no difference to what is implied. -/
theorem impliesOfJson_ordered {v : Json} {names : List String} :
    impliesOfJson v.ordered = .ok names ↔ impliesOfJson v = .ok names := by
  cases v with
  | array items =>
    have hstrings : (items.map Json.ordered).filterMap Json.string? = items.filterMap Json.string? := by
      rw [List.filterMap_map]
      exact congrArg (List.filterMap · items) (funext string?_ordered)
    rw [Json.ordered, Json.orderedItems_eq, impliesOfJson, impliesOfJson, hstrings]
  | object members => exact ⟨nofun, nofun⟩
  | _ => rfl

/-- A fingerprint that says nothing else is read if what it implies is, and takes the names up. -/
theorem decodeValue_implies (v : Json) : Json.decodeValue ofDraft (.object [("implies", v)]) =
    (impliesOfJson v.ordered).map fun names => ⟨[], names, [], [], none, none, none, none⟩ := by
  have hread : ((Json.Draft.ofJson v).toJson (v.depth + 1) >>= impliesOfJson) = impliesOfJson v.ordered := by
    rw [Json.toJson_ofJson (Nat.lt_succ_self v.depth)]
    rfl
  have hdepth : (Json.object [("implies", v)]).depth = v.depth + 1 := by
    rw [Json.depth, Json.depthMembers, Json.depthMembers, Nat.max_zero]
  have htake : Fields.take (v.depth + 1) ⟨none, none, none, none, none, none, none, none⟩ "implies" (.ofJson v) =
      (impliesOfJson v.ordered).map fun names => ⟨none, some names, none, none, none, none, none, none⟩ := by
    simp only [Fields.take, hread, Json.Draft.once]
    cases impliesOfJson v.ordered <;> rfl
  have hdescend : Json.descend (v.depth + 2) = .ok (v.depth + 1) := if_neg (by omega)
  have hknown : (fieldNames.contains "implies" || aliases.contains "implies") = true := by decide
  unfold Json.decodeValue ofDraft
  rw [hdepth, Json.Draft.ofJson, Json.Draft.ofJsonMembers, Json.Draft.ofJsonMembers, Json.Draft.record, hdescend]
  change (do
    let s ← Json.Draft.recordMembers _ _ _ _
    _) = _
  rw [Json.Draft.recordMembers, if_pos hknown, htake]
  cases impliesOfJson v.ordered <;> rfl

/-- Joined with commas or as a list, names without commas imply the same: what is left of them when they are trimmed, in
order, without the empty ones. A value is refused exactly if it is a number, a boolean or an object; what any other
value implies are names that are not empty and have no blank at their ends. A fingerprint implies what is decoded. -/
theorem implies_spellings :
    (∀ names : List String, (∀ n ∈ names, ',' ∉ n.toList) →
      impliesOfJson (.string (",".intercalate names)) = .ok ((names.map Text.trim).filter (· ≠ "")) ∧
      impliesOfJson (.array (names.map .string)) = .ok ((names.map Text.trim).filter (· ≠ ""))) ∧
    (∀ v, (∃ e, impliesOfJson v = .error e) ↔
      (∃ n, v = .number n) ∨ (∃ b, v = .bool b) ∨ ∃ members, v = .object members) ∧
    (∀ v names, impliesOfJson v = .ok names → ∀ n ∈ names, n ≠ "" ∧
      ∀ c, c ∈ n.toList.head? ∨ c ∈ n.toList.getLast? → Text.isBlank c = false) ∧
    ∀ v names, (∃ f, Json.decodeValue ofDraft (.object [("implies", v)]) = .ok f ∧ f.implies = names) ↔
      impliesOfJson v = .ok names := by
  refine ⟨fun names h => ⟨impliesOfJson_intercalate h, impliesOfJson_strings names⟩,
    fun v => exists_impliesOfJson_eq_error_iff, fun v names h n hn => ?_, fun v names => ?_⟩
  · obtain ⟨written, rfl⟩ := eq_cleanNames_of_impliesOfJson h
    exact ⟨(mem_cleanNames.mp hn).2, edges_of_mem_cleanNames hn⟩
  · rw [decodeValue_implies, ← impliesOfJson_ordered]
    cases impliesOfJson v.ordered <;> simp [Except.map]

/-- Blanks of any kind, an empty name and one that is blank. -/
theorem implies_spellings_blanks :
    let names := [" PHP", "", "\u00a0", "MySQL\u2003"]
    (∀ n ∈ names, ',' ∉ n.toList) ∧
    impliesOfJson (.string (",".intercalate names)) = .ok ["PHP", "MySQL"] ∧
    impliesOfJson (.array (names.map .string)) = .ok ["PHP", "MySQL"] := by
  intro names
  have hcommas : ∀ n ∈ names, ',' ∉ n.toList := by decide
  have hleft : (names.map Text.trim).filter (· ≠ "") = ["PHP", "MySQL"] := by decide
  obtain ⟨hstring, hlist⟩ := implies_spellings.1 names hcommas
  rw [hleft] at hstring hlist
  exact ⟨hcommas, hstring, hlist⟩

end Fingerprint
end SiteProbe
