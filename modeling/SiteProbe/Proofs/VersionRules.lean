import SiteProbe.Proofs.Entries
import SiteProbe.Proofs.FieldConditions
import SiteProbe.Proofs.FirstGroups
import SiteProbe.Proofs.Markers
import SiteProbe.Query.VersionRule

/-!
# Versions that rules find

The maps of a probe are searched in their order, each in the order of its keys, and the first entry that finds a version
(`VersionRule.Finds`) gives it. An entry that cannot find any (`VersionRule.Unusable`) only gives way to the next one.
Unless the markers of a pattern are mixed, what stands before its first one finds the same
(`VersionRule.extract?_eq_first`).
-/

namespace SiteProbe

open Pattern

namespace VersionRule

variable {p : Page} {version : String} {e : String × Json}

/-! ## Entries -/

/-- An entry of a map finds a version on a page: its key stands for a part of the page that is not empty, and the part
of its pattern before the marker compiles and has its first match there, with a first group that is not empty. -/
inductive Finds (p : Page) : String × Json → String → Prop
  | intro {key raw text version : String} {r : Regex} {m : Regex.Match} (hfield : Wire.FieldText p key text)
    (htext : text ≠ "") (hr : Regex.compile? (splitMarker raw).1 = some r) (hm : r.firstMatch? text = some m)
    (hgroup : m.group = some version) (hversion : version ≠ "") : Finds p (key, .string raw) version

/-- An entry of a map that finds no version on any page. -/
inductive Unusable : String × Json → Prop
  /-- It is no pattern. -/
  | value {key : String} {v : Json} (h : ∀ raw, v ≠ .string raw) : Unusable (key, v)
  /-- Its key stands for no part of a page. -/
  | key {key : String} {v : Json} (hbody : key ≠ "body") (hheader : ∀ name, name ≠ "" → key ≠ "headers." ++ name) :
    Unusable (key, v)
  /-- Its pattern does not compile. -/
  | pattern {key raw : String} (h : Regex.compile? (splitMarker raw).1 = none) : Unusable (key, .string raw)
  /-- Its pattern has no group. -/
  | group {key raw : String} {n : Regex.Node} (hread : Regex.read? (splitMarker raw).1 = some n)
    (hn : n.hasFirstGroup = false) : Unusable (key, .string raw)

theorem Unusable.not_finds (h : Unusable e) : ¬Finds p e version := by
  rintro ⟨hfield, -, hr, hm, hgroup, -⟩
  cases h with
  | value h => exact h _ rfl
  | key hbody hheader =>
    cases hfield with
    | body => exact hbody rfl
    | header hname => exact hheader _ hname rfl
  | pattern h =>
    rw [h] at hr
    cases hr
  | group hread hn =>
    rw [Regex.group_eq_none_of_compile? hread hn hr hm] at hgroup
    cases hgroup

/-- The version that an entry finds. -/
def find? (p : Page) (e : String × Json) : Option String := (ofMember? e).bind (version? p)

theorem version?_eq_some_iff {f : Field} {pattern : Pattern} :
    version? p ⟨f, pattern⟩ = some version ↔ f.value p ≠ "" ∧
      ∃ r m, pattern.regex = some r ∧ r.firstMatch? (f.value p) = some m ∧ m.group = some version ∧ version ≠ "" := by
  unfold version? Pattern.firstMatch? Regex.Match.version?
  simp only [Option.ite_none_left_eq_some, Option.bind_eq_some_iff, Option.filter_eq_some_iff, decide_eq_true_eq]
  constructor
  · rintro ⟨hvalue, m, ⟨r, hr, hm⟩, hgroup⟩
    exact ⟨hvalue, r, m, hr, hm, hgroup⟩
  · rintro ⟨hvalue, r, m, hr, hm, hgroup⟩
    exact ⟨hvalue, m, ⟨r, hr, hm⟩, hgroup⟩

theorem find?_eq_some_iff : find? p e = some version ↔ Finds p e version := by
  rw [find?, Option.bind_eq_some_iff]
  constructor
  · rintro ⟨rule, hrule, hversion⟩
    obtain ⟨raw, hraw, rfl⟩ := Option.map_eq_some_iff.mp hrule
    obtain ⟨hvalue, r, m, hr, hm, hgroup, hne⟩ := version?_eq_some_iff.mp hversion
    obtain ⟨key, v⟩ := e
    obtain rfl : v = .string raw := by
      cases v <;> simp_all [Json.string?]
    have hknown (path : String) : Field.ofPath key ≠ .unknown path := by
      intro hunknown
      rw [hunknown] at hvalue
      exact hvalue rfl
    exact .intro (Wire.fieldText_iff.mpr ⟨hknown, rfl⟩) hvalue hr hm hgroup hne
  · rintro ⟨hfield, htext, hr, hm, hgroup, hne⟩
    obtain ⟨-, rfl⟩ := Wire.fieldText_iff.mp hfield
    exact ⟨_, rfl, version?_eq_some_iff.mpr ⟨htext, _, _, hr, hm, hgroup, hne⟩⟩

theorem find?_eq_none_iff : find? p e = none ↔ ∀ version, ¬Finds p e version := by
  rw [Option.eq_none_iff_forall_ne_some]
  simp only [ne_eq, find?_eq_some_iff]

/-- A pattern that compiles to the same finds the same. -/
theorem find?_congr {raw raw' : String} (h : (compile raw).regex = (compile raw').regex) (p : Page) (key : String) :
    find? p (key, .string raw) = find? p (key, .string raw') := by
  apply Option.ext
  intro version
  show version? p ⟨.ofPath key, .compile raw⟩ = some version ↔ version? p ⟨.ofPath key, .compile raw'⟩ = some version
  rw [version?_eq_some_iff, version?_eq_some_iff, h]

/-! ## Maps -/

/-- The version that maps from fields to patterns find on a page. -/
def extract? (p : Page) (maps : List (Dict String Json)) : Option String :=
  firstVersion? p (ofMaps (maps.map Dict.toList))

/-- The entries are searched map by map, each map in the order of its keys. -/
theorem extract?_eq_findSome? (p : Page) (maps : List (Dict String Json)) :
    extract? p maps = (maps.flatMap Dict.toList).findSome? (find? p) := by
  rw [extract?, firstVersion?, ofMaps, ← List.flatMap_def]
  induction maps.flatMap Dict.toList with
  | nil => rfl
  | cons e entries ih =>
    rw [List.filterMap_cons, List.findSome?_cons, find?, ← ih]
    cases ofMember? e with
    | none => rfl
    | some rule => exact List.findSome?_cons

/-- A map may give way to another one that finds the same. -/
theorem extract?_congr {d d' : Dict String Json} (h : d.toList.findSome? (find? p) = d'.toList.findSome? (find? p))
    (before after : List (Dict String Json)) :
    extract? p (before ++ d :: after) = extract? p (before ++ d' :: after) := by
  simp only [extract?_eq_findSome?, List.flatMap_append, List.flatMap_cons, List.findSome?_append, h]

/-- For every list of maps and every page: the version is that of the first entry that finds any, map by map and in the
order of the keys, and there is none if no entry finds any. So the first of two lists that finds a version gives it. An
entry that is no pattern, stands for no part of a page, does not compile or has no group makes no difference wherever it
stands, and neither does the marker of a pattern with all that stands behind it unless the first marker has no backslash
and a later one has one. -/
theorem extract?_eq_first (maps : List (Dict String Json)) :
    (∀ p version, extract? p maps = some version ↔
      ∃ before e after, maps.flatMap Dict.toList = before ++ e :: after ∧ Finds p e version ∧
        ∀ e' ∈ before, ∀ version', ¬Finds p e' version') ∧
    (∀ p, extract? p maps = none ↔ ∀ e ∈ maps.flatMap Dict.toList, ∀ version, ¬Finds p e version) ∧
    (∀ p maps', extract? p (maps ++ maps') = (extract? p maps).or (extract? p maps')) ∧
    (∀ before d after, maps = before ++ d :: after → ∀ e ∈ d.toList, Unusable e →
      ∀ p, extract? p (before ++ d.erase e.1 :: after) = extract? p maps) ∧
    (∀ before d after, maps = before ++ d :: after → ∀ key raw, (key, .string raw) ∈ d.toList →
      ¬IsMixed raw.toList → ∀ head : String, IsHead raw.toList head.toList →
      ∀ p, extract? p (before ++ d.insert key (.string head) :: after) = extract? p maps) := by
  refine ⟨fun p version => ?_, fun p => ?_, fun p maps' => ?_, ?_, ?_⟩
  · rw [extract?_eq_findSome?, List.findSome?_eq_some_iff]
    simp only [find?_eq_some_iff, find?_eq_none_iff]
  · rw [extract?_eq_findSome?, List.findSome?_eq_none_iff]
    simp only [find?_eq_none_iff]
  · simp only [extract?_eq_findSome?, List.flatMap_append, List.findSome?_append]
  · rintro before d after rfl ⟨key, v⟩ he hunusable p
    obtain ⟨front, behind, hsplit, herase, -⟩ := Dict.toList_split he
    have hnone : find? p (key, v) = none := find?_eq_none_iff.mpr fun _ => hunusable.not_finds
    -- the entry finds nothing, so that the search goes on behind it as if it were not there
    apply extract?_congr
    rw [herase, hsplit, List.findSome?_append, List.findSome?_append, List.findSome?_cons, hnone]
  · rintro before d after rfl key raw he hmixed head hhead p
    obtain ⟨front, behind, hsplit, -, hinsert⟩ := Dict.toList_split he
    have hsame : find? p (key, .string head) = find? p (key, .string raw) :=
      find?_congr (regex_compile_head hmixed hhead) p key
    apply extract?_congr
    rw [hinsert, hsplit, List.findSome?_append, List.findSome?_append, List.findSome?_cons, List.findSome?_cons, hsame]

/-- A page that tells a version. -/
def blogPage : Page := ⟨"Blog v11", 200, []⟩

/-- A map with a pattern without a group. -/
def blogName : Dict String Json := .ofList [("body", .string "Blog")]

/-- A map with a key for no part of a page, and with a pattern that finds the version. -/
def blogVersion : Dict String Json := .ofList [("body", .string "v(1+)\\;version:\\1"), ("title", .string "(.+)")]

/-- The second map finds the version. It does so without the entries that find none, and without the marker. -/
theorem extract?_eq_first_blog :
    (∃ before e after, [blogName, blogVersion].flatMap Dict.toList = before ++ e :: after ∧ Finds blogPage e "11" ∧
      ∀ e' ∈ before, ∀ version, ¬Finds blogPage e' version) ∧
    (Unusable ("body", .string "Blog") ∧ extract? blogPage [blogName.erase "body", blogVersion] = some "11") ∧
    (Unusable ("title", .string "(.+)") ∧ extract? blogPage [blogName, blogVersion.erase "title"] = some "11") ∧
    (¬IsMixed "v(1+)\\;version:\\1".toList ∧ IsHead "v(1+)\\;version:\\1".toList "v(1+)".toList ∧
      extract? blogPage [blogName, blogVersion.insert "body" (.string "v(1+)")] = some "11") := by
  have hfound : extract? blogPage [blogName, blogVersion] = some "11" := by decide +kernel
  have hname : ("body", .string "Blog") ∈ blogName.toList := Dict.mem_toList_iff.mpr rfl
  have hversion : ("body", .string "v(1+)\\;version:\\1") ∈ blogVersion.toList := Dict.mem_toList_iff.mpr rfl
  have htitle : ("title", .string "(.+)") ∈ blogVersion.toList := Dict.mem_toList_iff.mpr rfl
  have hunnamed : Unusable ("body", .string "Blog") := by
    have hread : (Regex.read? (splitMarker "Blog").1).map Regex.Node.hasFirstGroup = some false := by decide +kernel
    obtain ⟨n, hn, hgroup⟩ := Option.map_eq_some_iff.mp hread
    exact .group hn hgroup
  have huntitled : Unusable ("title", .string "(.+)") := by
    apply Unusable.key
    · decide
    · intro name _ heq
      have hhead := congrArg (·.toList.head?) heq
      rw [String.toList_append] at hhead
      cases hhead
  have hmixed : ¬IsMixed "v(1+)\\;version:\\1".toList := by
    rw [← bare_infix_splitMarker_iff]
    decide
  have hhead : IsHead "v(1+)\\;version:\\1".toList "v(1+)".toList := isHead_splitMarker hmixed (by decide)
  obtain ⟨hfirst, -, -, hdelete, hmarker⟩ := extract?_eq_first [blogName, blogVersion]
  refine ⟨(hfirst _ _).mp hfound, ⟨hunnamed, ?_⟩, ⟨huntitled, ?_⟩, hmixed, hhead, ?_⟩
  · exact (hdelete [] blogName [blogVersion] rfl _ hname hunnamed blogPage).trans hfound
  · exact (hdelete [blogName] blogVersion [] rfl _ htitle huntitled blogPage).trans hfound
  · exact (hmarker [blogName] blogVersion [] rfl _ _ hversion hmixed _ hhead blogPage).trans hfound

/-- The first marker has no backslash and the second one has one, so that the first one is left in the pattern, which
finds nothing then. -/
theorem extract?_mixed :
    IsHead "v(1+);version:\\;version:\\1".toList "v(1+)".toList ∧
    extract? blogPage [.ofList [("body", .string "v(1+)")]] = some "11" ∧
    extract? blogPage [.ofList [("body", .string "v(1+);version:\\;version:\\1")]] = none := by
  refine ⟨⟨.inr (by decide), fun front hfront => ?_⟩, by decide +kernel, by decide +kernel⟩
  have hescaped : Text.cut? escaped "v(1+);version:\\;version:\\1".toList =
      some ("v(1+);version:".toList, "\\1".toList) := by decide
  have hbare : Text.cut? bare "v(1+);version:\\;version:\\1".toList =
      some ("v(1+)".toList, "\\;version:\\1".toList) := by decide
  rcases hfront with hfront | hfront
  · have hle := Text.length_le_of_cut? hescaped hfront
    exact Nat.le_trans (by decide) hle
  · exact Text.length_le_of_cut? hbare hfront

end VersionRule
end SiteProbe
