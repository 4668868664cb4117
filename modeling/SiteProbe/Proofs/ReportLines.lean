import SiteProbe.Proofs.Entries
import SiteProbe.Proofs.RoundTrips
import SiteProbe.Report

/-!
# Reports that are read back

A report as JSON text is one line, and reading the line gives the report back, each field under its own key
(`Report.parse_printed`). All reports as one document are read as the list of what their lines are read as. What an
object's member is read as is known from the members that are written (`Json.get?_ordered`).
-/

namespace SiteProbe

/-! ## Members of objects that are read -/

namespace Json

/-- A value is an object that has each key once, and no keys but some. -/
def IsRecord (keys : List String) (v : Json) : Prop :=
  ∃ members, v = .object members ∧ (members.map (·.1)).Nodup ∧ ∀ m ∈ members, m.1 ∈ keys

/-- An object is read with the last value that is written under each key. -/
theorem get?_ordered (members : List (String × Json)) (k : String) :
    (object members).ordered.get? k = (Dict.latest? members k).map ordered := by
  rw [ordered, orderedMembers_eq, ← Dict.latest?_map, ← Dict.get?_ofList]
  rfl

theorem isRecord_ordered {keys : List String} {members : List (String × Json)} (h : ∀ m ∈ members, m.1 ∈ keys) :
    IsRecord keys (object members).ordered := by
  refine ⟨_, rfl, Dict.nodup_keys _, fun m hm => ?_⟩
  have hget := Dict.mem_toList_iff.mp hm
  rw [Dict.get?_ofList, orderedMembers_eq, Dict.latest?_map] at hget
  obtain ⟨v, hv, -⟩ := Option.map_eq_some_iff.mp hget
  exact h (m.1, v) (Dict.mem_of_latest? hv)

/-- A member that there may be. -/
theorem latest?_known {α : Type} (o : Option α) (f : α → Json) (name k : String) :
    Dict.latest? (o.toList.map fun a => (name, f a)) k = if name = k then o.map f else none := by
  by_cases h : name = k <;> cases o <;> simp [Dict.latest?, h]

/-- A member that is left out under a condition. -/
theorem latest?_unless (p : Prop) [Decidable p] (name k : String) (v : Json) :
    Dict.latest? (if p then [] else [(name, v)]) k = if name = k ∧ ¬p then some v else none := by
  by_cases h : p <;> simp [Dict.latest?, h]

theorem ordered_string (s : String) : (string s).ordered = string s := rfl

theorem ordered_comp_string : ordered ∘ string = string := rfl

theorem ordered_strings (ss : List String) : (array (ss.map .string)).ordered = array (ss.map .string) := by
  rw [ordered, orderedItems_eq, List.map_map]
  rfl

theorem ordered_words (ns : List UInt32) : (array (ns.map ofWord)).ordered = array (ns.map ofWord) := by
  rw [ordered, orderedItems_eq, List.map_map]
  rfl

theorem whole_words (ns : List UInt32) : Whole (array (ns.map ofWord)) := by
  refine .array fun v hv => ?_
  obtain ⟨n, -, rfl⟩ := List.mem_map.mp hv
  exact .number ⟨by omega, Int.ofNat_lt.mpr (Nat.lt_trans n.toNat_lt (by decide))⟩

theorem depth_array_le {items : List Json} {n : Nat} (h : ∀ v ∈ items, v.depth ≤ n) : (array items).depth ≤ n + 1 :=
  Nat.add_le_add_right (depthItems_le_iff.mpr h) 1

theorem depth_object_le {members : List (String × Json)} {n : Nat} (h : ∀ m ∈ members, m.2.depth ≤ n) :
    (object members).depth ≤ n + 1 := Nat.add_le_add_right (depthMembers_le_iff.mpr h) 1

end Json

/-! ## Technologies -/

namespace Technology

open Json

/-- A value says of a technology what is known of it, and nothing else. -/
structure ReadAs (t : Technology) (v : Json) : Prop where
  record : v.IsRecord ["name", "version", "categories", "website", "description", "icon", "cpe"]
  name : v.get? "name" = some (.string t.name)
  version : v.get? "version" = some (.string t.version)
  categories : v.get? "categories" = some (.array (t.categories.map Json.ofWord))
  website : v.get? "website" = t.website.map .string
  description : v.get? "description" = t.description.map .string
  icon : v.get? "icon" = t.icon.map .string
  cpe : v.get? "cpe" = t.cpe.map .string

/-- The members that are written of a technology: the categories, and texts. -/
theorem exists_members (t : Technology) : ∃ members, t.toJson = .object members ∧ ∀ m ∈ members,
    m = ("categories", .array (t.categories.map Json.ofWord)) ∨
      m.1 ∈ ["name", "version", "website", "description", "icon", "cpe"] ∧ ∃ s, m.2 = .string s := by
  refine ⟨_, rfl, ?_⟩
  rintro ⟨k, v⟩ hm
  simp only [List.mem_append, List.mem_cons, List.not_mem_nil, or_false, List.mem_map, Prod.mk.injEq] at hm
  rcases hm with ((((⟨rfl, rfl⟩ | ⟨rfl, rfl⟩ | ⟨rfl, rfl⟩) | ⟨_, -, rfl, rfl⟩) | ⟨_, -, rfl, rfl⟩) |
    ⟨_, -, rfl, rfl⟩) | ⟨_, -, rfl, rfl⟩ <;> simp

/-- A technology is read with all that is written of it. -/
theorem readAs (t : Technology) : t.ReadAs t.toJson.ordered := by
  constructor
  case record =>
    obtain ⟨members, hobject, hmembers⟩ := t.exists_members
    rw [hobject]
    refine isRecord_ordered fun m hm => ?_
    rcases hmembers m hm with rfl | ⟨hkey, -⟩
    · simp
    · simp only [List.mem_cons, List.not_mem_nil, or_false] at hkey ⊢
      tauto
  all_goals
    rw [toJson, get?_ordered]
    simp [Dict.latest?_append, Dict.latest?_cons, latest?_known, ordered_words, ordered_string, ordered_comp_string]

theorem whole_toJson (t : Technology) : Whole t.toJson := by
  obtain ⟨members, hobject, hmembers⟩ := t.exists_members
  rw [hobject]
  refine .object fun m hm => ?_
  rcases hmembers m hm with rfl | ⟨-, s, hs⟩
  · exact whole_words _
  · rw [hs]
    exact .string s

theorem depth_toJson_le (t : Technology) : t.toJson.depth ≤ 2 := by
  obtain ⟨members, hobject, hmembers⟩ := t.exists_members
  rw [hobject]
  refine depth_object_le fun m hm => ?_
  rcases hmembers m hm with rfl | ⟨-, s, hs⟩
  · refine depth_array_le fun v hv => ?_
    obtain ⟨c, -, rfl⟩ := List.mem_map.mp hv
    exact Nat.zero_le 0
  · rw [hs]
    exact Nat.zero_le 1

end Technology

/-! ## Reports -/

namespace Report

open Json

/-- A value says of a report what was found and what failed, and nothing else. -/
structure ReadAs (r : Report) (v : Json) : Prop where
  record : v.IsRecord ["url", "technologies", "failed_paths", "mode", "error"]
  url : v.get? "url" = some (.string r.url)
  technologies : ∃ items, v.get? "technologies" = some (.array items) ∧
    List.Forall₂ Technology.ReadAs r.technologies items
  failedPaths : v.get? "failed_paths" =
    if r.failedPaths = [] then none else some (.array (r.failedPaths.map .string))
  mode : v.get? "mode" = some (.string r.mode.name)
  error : v.get? "error" = r.error.map .string

/-- The members that are written of a report: the technologies, the paths that failed, and texts. -/
theorem exists_members (r : Report) : ∃ members, r.toJson = .object members ∧ ∀ m ∈ members,
    m = ("technologies", .array (r.technologies.map Technology.toJson)) ∨
      m = ("failed_paths", .array (r.failedPaths.map .string)) ∨
        m.1 ∈ ["url", "mode", "error"] ∧ ∃ s, m.2 = .string s := by
  refine ⟨_, rfl, ?_⟩
  rintro ⟨k, v⟩ hm
  simp only [List.mem_append, List.mem_cons, List.not_mem_nil, or_false, List.mem_map, Prod.mk.injEq,
    List.mem_ite_nil_left] at hm
  rcases hm with (((⟨rfl, rfl⟩ | ⟨rfl, rfl⟩) | ⟨-, rfl, rfl⟩) | ⟨rfl, rfl⟩) | ⟨_, -, rfl, rfl⟩ <;> simp

/-- A report is read with all that is written of it. -/
theorem readAs (r : Report) : r.ReadAs r.toJson.ordered := by
  constructor
  case record =>
    obtain ⟨members, hobject, hmembers⟩ := r.exists_members
    rw [hobject]
    refine isRecord_ordered fun m hm => ?_
    rcases hmembers m hm with rfl | rfl | ⟨hkey, -⟩
    · simp
    · simp
    · simp only [List.mem_cons, List.not_mem_nil, or_false] at hkey ⊢
      tauto
  case technologies =>
    refine ⟨r.technologies.map fun t => t.toJson.ordered, ?_, ?_⟩
    · rw [toJson, get?_ordered]
      simp [Dict.latest?_append, Dict.latest?_cons, latest?_known, latest?_unless, ordered, orderedItems_eq]
    · rw [List.forall₂_map_right_iff, List.forall₂_same]
      exact fun t _ => t.readAs
  case failedPaths =>
    rw [toJson, get?_ordered]
    by_cases hfailed : r.failedPaths = [] <;>
      simp [Dict.latest?_cons, latest?_known, hfailed, ordered_strings]
  all_goals
    rw [toJson, get?_ordered]
    simp [Dict.latest?_append, Dict.latest?_cons, latest?_known, latest?_unless, ordered_string, ordered_comp_string]

theorem whole_toJson (r : Report) : Whole r.toJson := by
  obtain ⟨members, hobject, hmembers⟩ := r.exists_members
  rw [hobject]
  refine .object fun m hm => ?_
  rcases hmembers m hm with rfl | rfl | ⟨-, s, hs⟩
  · refine .array fun v hv => ?_
    obtain ⟨t, -, rfl⟩ := List.mem_map.mp hv
    exact t.whole_toJson
  · refine .array fun v hv => ?_
    obtain ⟨s, -, rfl⟩ := List.mem_map.mp hv
    exact .string s
  · rw [hs]
    exact .string s

theorem depth_toJson_le (r : Report) : r.toJson.depth ≤ 4 := by
  obtain ⟨members, hobject, hmembers⟩ := r.exists_members
  rw [hobject]
  refine depth_object_le fun m hm => ?_
  rcases hmembers m hm with rfl | rfl | ⟨-, s, hs⟩
  · refine depth_array_le fun v hv => ?_
    obtain ⟨t, -, rfl⟩ := List.mem_map.mp hv
    exact t.depth_toJson_le
  · refine depth_array_le fun v hv => ?_
    obtain ⟨s, -, rfl⟩ := List.mem_map.mp hv
    exact Nat.zero_le 2
  · rw [hs]
    exact Nat.zero_le 3

/-- The line of a report is read as the report. -/
theorem parse_jsonLine (r : Report) : parse (Utf8.encode r.jsonLine) = .ok r.toJson.ordered :=
  parse_compress r.whole_toJson (Nat.lt_of_le_of_lt r.depth_toJson_le (by decide))

/-- The document of all reports is read as what the lines are read as. -/
theorem parse_jsonDocument (rs : List Report) : parse (Utf8.encode (jsonDocument rs)) =
    .ok (object [("results", .array (rs.map toJson))]).ordered := by
  refine parse_pretty (.object fun m hm => ?_) ?_
  · obtain rfl := List.mem_singleton.mp hm
    refine .array fun v hv => ?_
    obtain ⟨r, -, rfl⟩ := List.mem_map.mp hv
    exact r.whole_toJson
  · refine Nat.lt_of_le_of_lt (depth_object_le (n := 5) fun m hm => ?_) (by decide)
    obtain rfl := List.mem_singleton.mp hm
    refine depth_array_le fun v hv => ?_
    obtain ⟨r, -, rfl⟩ := List.mem_map.mp hv
    exact r.depth_toJson_le

/-- The line of a report holds no line break, and it is read as an object that says what the report says, each thing
under its own key. The document of all reports is read as an object whose results are, one by one, what the lines of the
reports are read as. -/
theorem parse_printed (rs : List Report) :
    (∀ r ∈ rs, '\n' ∉ r.jsonLine.toList ∧ '\r' ∉ r.jsonLine.toList ∧
      ∃ v, parse (Utf8.encode r.jsonLine) = .ok v ∧ r.ReadAs v) ∧
    ∃ document items, parse (Utf8.encode (jsonDocument rs)) = .ok document ∧
      document.get? "results" = some (.array items) ∧
        items.map .ok = rs.map fun r => parse (Utf8.encode r.jsonLine) := by
  constructor
  · intro r _
    have hline := isLine_iff.mp (isLine_compress r.toJson)
    refine ⟨fun hbreak => absurd (hline _ hbreak) (by decide), fun hbreak => absurd (hline _ hbreak) (by decide), ?_⟩
    exact ⟨r.toJson.ordered, parse_jsonLine r, r.readAs⟩
  · refine ⟨_, rs.map fun r => r.toJson.ordered, parse_jsonDocument rs, ?_, ?_⟩
    · rw [get?_ordered, Dict.latest?_singleton, if_pos rfl, Option.map_some, ordered, orderedItems_eq, List.map_map]
      rfl
    · rw [List.map_map]
      exact List.map_congr_left fun r _ => (parse_jsonLine r).symm

/-- A report with quotes, backslashes, line breaks and other control characters. -/
def brokenLines : Report where
  url := "https://a.test/\"q\"\\\n"
  technologies := [⟨"PHP\r", "", [27, 4294967295], some "\x01", none, none, some "é😀"⟩]
  failedPaths := ["/a\tb"]
  mode := .full
  error := some "timed out\r\nafter \"3\" tries"

theorem parse_printed_brokenLines : '\n' ∉ brokenLines.jsonLine.toList ∧
    '\r' ∉ brokenLines.jsonLine.toList ∧ ∃ v, parse (Utf8.encode brokenLines.jsonLine) = .ok v ∧
      v.get? "url" = some (.string "https://a.test/\"q\"\\\n") ∧
        v.get? "error" = some (.string "timed out\r\nafter \"3\" tries") := by
  obtain ⟨hnewline, hreturn, v, hv, hread⟩ := (parse_printed [brokenLines]).1 _ List.mem_cons_self
  exact ⟨hnewline, hreturn, v, hv, hread.url, hread.error⟩

end Report
end SiteProbe
