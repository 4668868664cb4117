import SiteProbe.Proofs.Classification
import SiteProbe.Proofs.Segments
import SiteProbe.Rule.Source

/-!
# Folders of rule files

The rule files of a folder are those whose names go on before the ending `.json` (`Source.extension?_eq_json_iff`).
They are loaded in the order of their names, so that loading fails with the error of the first one that cannot be
loaded (`Source.loadAll_eq_error_iff`), and otherwise gives each technology the fingerprint of the last one that
defines it (`Source.get?_loadAll`). None of this depends on the order in which the folder lists its entries
(`Source.load_folder`).
-/

namespace SiteProbe

namespace Source

open Text

/-! ## Names of rule files -/

theorem pieces_of_notMem {c : Char} {cs : List Char} (h : c ∉ cs) : pieces (· = c) cs = [cs] := by
  have hnot : ∀ d ∈ cs, (decide (d = c)) = false := fun d hd => by simpa using fun heq : d = c => h (heq ▸ hd)
  obtain ⟨init, last, hnil, hpieces⟩ := exists_pieces_append [] cs hnot
  obtain ⟨rfl, rfl⟩ : init = [] ∧ last = [] := by
    cases init with
    | nil => exact ⟨rfl, (List.cons.inj hnil).1.symm⟩
    | cons p ps => simp [pieces] at hnil
  exact hpieces

theorem pieces_cons_ne (separates : Char → Bool) (c : Char) (cs : List Char) : pieces separates (c :: cs) ≠ [[]] := by
  unfold pieces
  split
  · simpa using pieces_ne_nil separates cs
  · split <;> simp

/-- What stands behind the last dot of a name is the extension, unless the name starts with that dot. -/
theorem extension?_of_dot {stem ending : List Char} (h : '.' ∉ ending) :
    extension? (String.ofList (stem ++ '.' :: ending)) = if stem = [] then none else some (String.ofList ending) := by
  have hpieces : pieces (· = '.') (stem ++ '.' :: ending) = pieces (· = '.') stem ++ [ending] := by
    rw [pieces_append_cons (by simp), pieces_of_notMem h]
  unfold extension?
  rw [String.toList_ofList, hpieces, List.reverse_append, List.reverse_singleton, List.singleton_append]
  cases stem with
  | nil => rfl
  | cons c rest =>
    cases hreverse : (pieces (· = '.') (c :: rest)).reverse with
    | nil => exact absurd (List.reverse_eq_nil_iff.mp hreverse) (pieces_ne_nil _ _)
    | cons p ps =>
      cases p with
      | nil =>
        cases ps with
        | nil => exact absurd (List.reverse_eq_iff.mp hreverse) (pieces_cons_ne _ c rest)
        | cons q qs => rfl
      | cons d ds => rfl

/-- A rule file has a name that goes on before the ending `.json`. -/
def IsRuleName (name : String) : Prop := ∃ stem, stem ≠ "" ∧ name = stem ++ ".json"

theorem extension?_eq_json_iff {name : String} : extension? name = some "json" ↔ IsRuleName name := by
  constructor
  · intro h
    by_cases hdot : '.' ∈ name.toList
    · -- the last dot is the first one from behind
      obtain ⟨behind, before, hsplit, hending⟩ := List.eq_append_cons_of_mem (List.mem_reverse.mpr hdot)
      have hname : name.toList = before.reverse ++ '.' :: behind.reverse := by
        rw [← List.reverse_reverse name.toList, hsplit]
        simp
      have hextension := @extension?_of_dot before.reverse behind.reverse (mt List.mem_reverse.mp hending)
      rw [← hname, String.ofList_toList, h] at hextension
      split at hextension
      · cases hextension
      · rename_i hstem
        refine ⟨String.ofList before.reverse, by simpa using hstem, ?_⟩
        rw [← String.toList_inj, hname, String.toList_append, String.toList_ofList,
          ← String.toList_ofList (l := behind.reverse), ← Option.some.inj hextension]
        rfl
    · rw [extension?, pieces_of_notMem hdot] at h
      cases h
  · rintro ⟨stem, hstem, rfl⟩
    have hdot : '.' ∉ "json".toList := by decide
    have hextension := @extension?_of_dot stem.toList "json".toList hdot
    have hname : String.ofList (stem.toList ++ '.' :: "json".toList) = stem ++ ".json" := by
      rw [← String.toList_inj, String.toList_append, String.toList_ofList]
      rfl
    rw [hname, if_neg (by simpa using hstem), String.ofList_toList] at hextension
    exact hextension

/-! ## Contents of rule files -/

/-- What a rule file holds is read as a store. -/
def Holds (content : FileContent) (s : Store) : Prop := ∃ bytes, content = .ok bytes ∧ Store.ofBytes bytes = .ok s

/-- A rule file cannot be read, or what it holds cannot be read as a store; each has its error. -/
inductive Fails (path : String) : FileContent → Error → Prop
  | unread (reason : String) : Fails path (.error reason) (.io reason)
  | unparsed {bytes : List UInt8} {e : Json.Error} (h : Store.ofBytes bytes = .error e) :
    Fails path (.ok bytes) (.ruleLoad ("failed to load " ++ path ++ ": " ++ (Error.json e).message))

variable {path folder : String} {content : FileContent} {s t : Store} {e : Error}
  {files : List (String × FileContent)}

theorem loadFile_eq_ok_iff : Store.loadFile path content = .ok s ↔ Holds content s := by
  cases content with
  | error reason => simp [Store.loadFile, Holds]
  | ok bytes => cases h : Store.ofBytes bytes <;> simp [Store.loadFile, Holds, h, Except.mapError]

theorem loadFile_eq_error_iff : Store.loadFile path content = .error e ↔ Fails path content e := by
  constructor
  · intro h
    cases content with
    | error reason =>
      cases h
      exact .unread reason
    | ok bytes =>
      cases hread : Store.ofBytes bytes with
      | error error =>
        rw [Store.loadFile, hread] at h
        cases h
        exact .unparsed hread
      | ok s =>
        rw [Store.loadFile, hread] at h
        cases h
  · rintro (reason | hread)
    · rfl
    · rw [Store.loadFile, hread]
      rfl

/-! ## Loading one after the other -/

theorem loadAll_cons_of_holds {f : String × FileContent} (h : Holds f.2 t) (rest : List (String × FileContent)) :
    loadAll folder s (f :: rest) = loadAll folder (s.extend t) rest := by
  rw [loadAll, loadFile_eq_ok_iff.mpr h]
  rfl

theorem loadAll_cons_of_fails {f : String × FileContent} (h : Fails (child folder f.1) f.2 e)
    (rest : List (String × FileContent)) : loadAll folder s (f :: rest) = .error e := by
  rw [loadAll, loadFile_eq_error_iff.mpr h]
  rfl

/-- What does not hold a store fails. -/
theorem holds_or_fails (path : String) (content : FileContent) :
    (∃ s, Holds content s) ∨ ∃ e, Fails path content e := by
  cases h : Store.loadFile path content with
  | ok s => exact .inl ⟨s, loadFile_eq_ok_iff.mp h⟩
  | error e => exact .inr ⟨e, loadFile_eq_error_iff.mp h⟩

theorem Holds.not_fails (h : Holds content s) : ¬Fails path content e := by
  rw [← loadFile_eq_error_iff, loadFile_eq_ok_iff.mpr h]
  exact nofun

/-- Loading succeeds if all files hold stores. -/
theorem exists_loadAll_iff : (∃ t, loadAll folder s files = .ok t) ↔ ∀ f ∈ files, ∃ t, Holds f.2 t := by
  induction files generalizing s with
  | nil => exact ⟨fun _ => List.forall_mem_nil _, fun _ => ⟨s, rfl⟩⟩
  | cons f rest ih =>
    rw [List.forall_mem_cons]
    rcases holds_or_fails (child folder f.1) f.2 with ⟨u, hu⟩ | ⟨e, he⟩
    · rw [loadAll_cons_of_holds hu, ih]
      exact ⟨fun h => ⟨⟨u, hu⟩, h⟩, And.right⟩
    · rw [loadAll_cons_of_fails he]
      constructor
      · rintro ⟨_, h⟩
        cases h
      · rintro ⟨⟨u, hu⟩, -⟩
        exact absurd he hu.not_fails

/-- Loading fails with the error of the first file that fails. -/
theorem loadAll_eq_error_iff : loadAll folder s files = .error e ↔ ∃ before f after, files = before ++ f :: after ∧
    (∀ g ∈ before, ∃ t, Holds g.2 t) ∧ Fails (child folder f.1) f.2 e := by
  induction files generalizing s with
  | nil => exact ⟨nofun, fun ⟨before, _, _, h, _⟩ => absurd h.symm (by simp)⟩
  | cons f rest ih =>
    rcases holds_or_fails (child folder f.1) f.2 with ⟨u, hu⟩ | ⟨e', he'⟩
    · rw [loadAll_cons_of_holds hu, ih]
      constructor
      · rintro ⟨before, g, after, rfl, hbefore, hg⟩
        exact ⟨f :: before, g, after, rfl, List.forall_mem_cons.mpr ⟨⟨u, hu⟩, hbefore⟩, hg⟩
      · rintro ⟨before, g, after, hsplit, hbefore, hg⟩
        cases before with
        | nil =>
          obtain ⟨rfl, rfl⟩ := List.cons.inj hsplit
          exact absurd hg hu.not_fails
        | cons f' before =>
          obtain ⟨rfl, rfl⟩ := List.cons.inj hsplit
          exact ⟨before, g, after, rfl, (List.forall_mem_cons.mp hbefore).2, hg⟩
    · rw [loadAll_cons_of_fails he', Except.error.injEq]
      constructor
      · rintro rfl
        exact ⟨[], f, rest, rfl, List.forall_mem_nil _, he'⟩
      · rintro ⟨before, g, after, hsplit, hbefore, hg⟩
        cases before with
        | nil =>
          obtain ⟨rfl, rfl⟩ := List.cons.inj hsplit
          exact Except.error.inj ((loadFile_eq_error_iff.mpr he').symm.trans (loadFile_eq_error_iff.mpr hg))
        | cons f' before =>
          obtain ⟨rfl, rfl⟩ := List.cons.inj hsplit
          obtain ⟨u, hu⟩ := hbefore f List.mem_cons_self
          exact absurd he' hu.not_fails

/-- The fingerprint of a technology in what a file holds. -/
def definition? (tech : String) (f : String × FileContent) : Option Fingerprint :=
  (f.2.toOption.bind fun bytes => (Store.ofBytes bytes).toOption).bind fun s => s.get? tech

theorem definition?_eq_some_iff {tech : String} {f : String × FileContent} {p : Fingerprint} :
    definition? tech f = some p ↔ ∃ s, Holds f.2 s ∧ s.get? tech = some p := by
  obtain ⟨name, content⟩ := f
  unfold definition?
  rw [Option.bind_eq_some_iff]
  refine exists_congr fun s => and_congr_left fun _ => ?_
  cases content with
  | error reason => simp [Holds, Except.toOption]
  | ok bytes => cases h : Store.ofBytes bytes <;> simp [Holds, h, Except.toOption]

/-- A technology has the fingerprint of the last file that defines it, or else the one that it had before. -/
theorem get?_loadAll (tech : String) (h : loadAll folder s files = .ok t) :
    t.get? tech = (files.reverse.findSome? (definition? tech)).or (s.get? tech) := by
  induction files generalizing s with
  | nil =>
    obtain rfl := Except.ok.inj h
    rfl
  | cons f rest ih =>
    rcases holds_or_fails (child folder f.1) f.2 with ⟨u, hu⟩ | ⟨e, he⟩
    · rw [loadAll_cons_of_holds hu] at h
      have hdefinition : definition? tech f = u.get? tech :=
        Option.ext fun p => by
          rw [definition?_eq_some_iff]
          constructor
          · rintro ⟨u', hu', hp⟩
            obtain ⟨bytes, hbytes, hread⟩ := hu
            obtain ⟨bytes', hbytes', hread'⟩ := hu'
            obtain rfl : bytes = bytes' := Except.ok.inj (hbytes.symm.trans hbytes')
            rw [Except.ok.inj (hread.symm.trans hread')]
            exact hp
          · exact fun hp => ⟨u, hu, hp⟩
      rw [ih h, Store.extend, Dict.get?_insertAll, Dict.latest?_toList, List.reverse_cons, List.findSome?_append,
        List.findSome?_singleton, hdefinition, Option.or_assoc]
    · rw [loadAll_cons_of_fails he] at h
      cases h

/-! ## Loading a folder -/

/-- A rule file of a folder. -/
def IsRuleFile (entries : Dict String FileContent) (name : String) (content : FileContent) : Prop :=
  IsRuleName name ∧ entries.get? name = some content

/-- The rule file under a name defines a technology. -/
def Defines (entries : Dict String FileContent) (name tech : String) (p : Fingerprint) : Prop :=
  ∃ content s, IsRuleFile entries name content ∧ Holds content s ∧ s.get? tech = some p

section Folder

variable {entries : Dict String FileContent} {listing : List (String × FileContent)} {name tech : String}

/-- The rule files are found in whatever order the entries are listed. -/
theorem mem_ruleFiles_iff (h : listing.Perm entries.toList) :
    (name, content) ∈ (ruleFiles listing).toList ↔ IsRuleFile entries name content := by
  have hnodup : (listing.map (·.1)).Nodup := (h.map _).nodup_iff.mpr entries.nodup_keys
  have hfilter : ((listing.filter fun e => extension? e.1 = some "json").map (·.1)).Nodup :=
    hnodup.sublist (List.filter_sublist.map _)
  rw [Dict.mem_toList_iff, ruleFiles, Dict.get?_ofList, Dict.latest?_eq_some_iff hfilter, List.mem_filter, h.mem_iff,
    Dict.mem_toList_iff, decide_eq_true_iff, extension?_eq_json_iff, IsRuleFile, and_comm]

theorem definition?_ruleFile (h : listing.Perm entries.toList) {p : Fingerprint} :
    (∃ content, (name, content) ∈ (ruleFiles listing).toList ∧ definition? tech (name, content) = some p) ↔
      Defines entries name tech p := by
  refine exists_congr fun content => ?_
  rw [mem_ruleFiles_iff h, definition?_eq_some_iff]
  exact ⟨fun ⟨hfile, s, hs⟩ => ⟨s, hfile, hs⟩, fun ⟨s, hfile, hs⟩ => ⟨hfile, s, hs⟩⟩

/-- Rule files come in the order of the bytes of their names. -/
theorem pairwise_ruleFiles (listing : List (String × FileContent)) :
    (ruleFiles listing).toList.Pairwise fun f g => Utf8.encode f.1 < Utf8.encode g.1 :=
  (ruleFiles listing).sorted.imp fun h => Utf8.encode_lt_encode_iff.mpr (compareOfLessAndEq_eq_lt.mp h)

/-- The last rule file that defines a technology is the one with the greatest name. -/
theorem findSome?_ruleFiles_eq_some_iff (h : listing.Perm entries.toList) {p : Fingerprint} :
    (ruleFiles listing).toList.reverse.findSome? (definition? tech) = some p ↔
      ∃ name, Defines entries name tech p ∧
        ∀ name' p', Defines entries name' tech p' → Utf8.encode name' ≤ Utf8.encode name := by
  have hsorted := List.pairwise_reverse.mpr (pairwise_ruleFiles listing)
  rw [List.findSome?_eq_some_iff]
  constructor
  · rintro ⟨after, f, before, hsplit, hf, hafter⟩
    have hmem : f ∈ (ruleFiles listing).toList := List.mem_reverse.mp (by simp [hsplit])
    refine ⟨f.1, (definition?_ruleFile h).mp ⟨f.2, hmem, hf⟩, fun name' p' hdefines => ?_⟩
    obtain ⟨content', hmem', hf'⟩ := (definition?_ruleFile h).mpr hdefines
    rw [hsplit, List.pairwise_append, List.pairwise_cons] at hsorted
    rw [← List.mem_reverse, hsplit, List.mem_append, List.mem_cons] at hmem'
    rcases hmem' with hmem' | rfl | hmem'
    · rw [hafter _ hmem'] at hf'
      cases hf'
    · exact List.le_refl _
    · exact List.le_of_lt (hsorted.2.1.1 _ hmem')
  · rintro ⟨name, hdefines, hgreatest⟩
    obtain ⟨content, hmem, hf⟩ := (definition?_ruleFile h).mpr hdefines
    obtain ⟨after, before, hsplit⟩ := List.append_of_mem (List.mem_reverse.mpr hmem)
    refine ⟨after, (name, content), before, hsplit, hf, fun g hg => ?_⟩
    rw [hsplit, List.pairwise_append] at hsorted
    have hlt := hsorted.2.2 g hg (name, content) List.mem_cons_self
    have hmem' : g ∈ (ruleFiles listing).toList := List.mem_reverse.mp (by simp [hsplit, hg])
    cases hg' : definition? tech g with
    | none => rfl
    | some p' => exact absurd hlt (hgreatest g.1 p' ((definition?_ruleFile h).mp ⟨g.2, hmem', hg'⟩))

/-- The first rule file that fails is the one with the smallest name. -/
theorem load_eq_error_iff (h : listing.Perm entries.toList) :
    load path (.folder (.ok listing)) = .error e ↔
      ∃ name content, IsRuleFile entries name content ∧ Fails (child path name) content e ∧
        ∀ name' content', IsRuleFile entries name' content' → Utf8.encode name' < Utf8.encode name →
          ∃ s, Holds content' s := by
  have hsorted := pairwise_ruleFiles listing
  rw [load, loadAll_eq_error_iff]
  constructor
  · rintro ⟨before, f, after, hsplit, hbefore, hf⟩
    have hmem : f ∈ (ruleFiles listing).toList := by simp [hsplit]
    refine ⟨f.1, f.2, (mem_ruleFiles_iff h).mp hmem, hf, fun name' content' hfile hlt => ?_⟩
    rw [hsplit, List.pairwise_append, List.pairwise_cons] at hsorted
    have hmem' := (mem_ruleFiles_iff h).mpr hfile
    rw [hsplit, List.mem_append, List.mem_cons] at hmem'
    rcases hmem' with hmem' | rfl | hmem'
    · exact hbefore _ hmem'
    · exact absurd hlt (List.lt_irrefl _)
    · exact absurd hlt (List.lt_asymm (hsorted.2.1.1 _ hmem'))
  · rintro ⟨name, content, hfile, hfails, hsmaller⟩
    obtain ⟨before, after, hsplit⟩ := List.append_of_mem ((mem_ruleFiles_iff h).mpr hfile)
    refine ⟨before, (name, content), after, hsplit, fun g hg => ?_, hfails⟩
    rw [hsplit, List.pairwise_append] at hsorted
    have hmem' : g ∈ (ruleFiles listing).toList := by simp [hsplit, hg]
    exact hsmaller g.1 g.2 ((mem_ruleFiles_iff h).mp hmem') (hsorted.2.2 g hg _ List.mem_cons_self)

/-- Rules are loaded alike from folders with the same rule files. -/
theorem ruleFiles_congr {entries' : Dict String FileContent} {listing' : List (String × FileContent)}
    (h : listing.Perm entries.toList) (h' : listing'.Perm entries'.toList)
    (hsame : ∀ name content, IsRuleFile entries' name content ↔ IsRuleFile entries name content) :
    ruleFiles listing' = ruleFiles listing := by
  refine Dict.ext_get? fun name => Option.ext fun content => ?_
  rw [← Dict.mem_toList_iff, ← Dict.mem_toList_iff, mem_ruleFiles_iff h', mem_ruleFiles_iff h, hsame]

end Folder

/-- For every folder and every order in which its entries are listed: loading it gives a store if all rule files can be
read as stores, and this store has under the name of a technology the whole fingerprint that is given by the file with
the greatest name among those that define the technology, and nothing if no file does. If some file cannot be read as a
store, the error is the one of the file with the smallest name of these. What else lies in the folder makes no
difference. -/
theorem load_folder (path : String) (entries : Dict String FileContent) (listing : List (String × FileContent))
    (h : listing.Perm entries.toList) :
    ((∃ s, load path (.folder (.ok listing)) = .ok s) ↔
      ∀ name content, IsRuleFile entries name content → ∃ s, Holds content s) ∧
    (∀ s, load path (.folder (.ok listing)) = .ok s → ∀ tech,
      (∀ p, s.get? tech = some p ↔ ∃ name, Defines entries name tech p ∧
        ∀ name' p', Defines entries name' tech p' → Utf8.encode name' ≤ Utf8.encode name) ∧
      (s.contains tech ↔ ∃ name p, Defines entries name tech p)) ∧
    (∀ e, load path (.folder (.ok listing)) = .error e ↔
      ∃ name content, IsRuleFile entries name content ∧ Fails (child path name) content e ∧
        ∀ name' content', IsRuleFile entries name' content' → Utf8.encode name' < Utf8.encode name →
          ∃ s, Holds content' s) ∧
    ∀ (entries' : Dict String FileContent) (listing' : List (String × FileContent)), listing'.Perm entries'.toList →
      (∀ name content, IsRuleFile entries' name content ↔ IsRuleFile entries name content) →
      load path (.folder (.ok listing')) = load path (.folder (.ok listing)) := by
  refine ⟨?_, fun s hs tech => ?_, fun e => load_eq_error_iff h, fun entries' listing' h' hsame => ?_⟩
  · rw [load, exists_loadAll_iff]
    exact ⟨fun hall name content hfile => hall (name, content) ((mem_ruleFiles_iff h).mpr hfile),
      fun hall f hf => hall f.1 f.2 ((mem_ruleFiles_iff h).mp hf)⟩
  · have hget : s.get? tech = (ruleFiles listing).toList.reverse.findSome? (definition? tech) := by
      rw [get?_loadAll tech hs, Dict.get?_empty, Option.or_none]
    refine ⟨fun p => by rw [hget, findSome?_ruleFiles_eq_some_iff h], ?_⟩
    rw [Dict.contains, hget, List.findSome?_isSome_iff]
    constructor
    · rintro ⟨f, hf, hsome⟩
      obtain ⟨p, hp⟩ := Option.isSome_iff_exists.mp hsome
      exact ⟨f.1, p, (definition?_ruleFile h).mp ⟨f.2, List.mem_reverse.mp hf, hp⟩⟩
    · rintro ⟨name, p, hdefines⟩
      obtain ⟨content, hmem, hp⟩ := (definition?_ruleFile h).mpr hdefines
      exact ⟨(name, content), List.mem_reverse.mpr hmem, by rw [hp]; rfl⟩
  · rw [load, load, ruleFiles_congr h h' hsame]

/-- A rule file that knows the language and what runs it. -/
def baseRules : List UInt8 :=
  "\x7b\"apps\":\x7b\"PHP\":\x7b\"cats\":[27]\x7d,\"Blog\":\x7b\"implies\":\"PHP\"\x7d\x7d\x7d".toList.map Char.toUInt8

/-- A rule file that knows where to read of the language, and not to what it belongs. -/
def siteRules : List UInt8 :=
  "\x7b\"apps\":\x7b\"PHP\":\x7b\"website\":\"php.net\"\x7d\x7d\x7d".toList.map Char.toUInt8

/-- The entries of a folder with the two rule files, and with notes that cannot be read. -/
def sampleListing : List (String × FileContent) :=
  [("site.json", .ok siteRules), ("notes.txt", .error "Permission denied"), ("base.json", .ok baseRules)]

/-- The folder with these entries. -/
def sampleFolder : Dict String FileContent := .ofList sampleListing

/-- The language has the fingerprint of the file that comes last, without what the first one says. -/
theorem load_folder_sample : sampleListing.Perm sampleFolder.toList ∧
    ∃ s p, load "rules" (.folder (.ok sampleListing)) = .ok s ∧ s.get? "PHP" = some p ∧
      p.website = some "php.net" ∧ p.categories = [] ∧ s.contains "Blog" ∧
      ∃ name, Defines sampleFolder name "PHP" p ∧
        ∀ name' p', Defines sampleFolder name' "PHP" p' → Utf8.encode name' ≤ Utf8.encode name := by
  have hperm : sampleListing.Perm sampleFolder.toList := by decide +kernel
  obtain ⟨-, hstore, -, -⟩ := load_folder "rules" sampleFolder sampleListing hperm
  have hloaded : (load "rules" (.folder (.ok sampleListing))).toOption.bind (fun s => (s.get? "PHP").map fun p =>
      (p.website, p.categories, s.contains "Blog")) = some (some "php.net", [], true) := by decide +kernel
  cases hload : load "rules" (.folder (.ok sampleListing)) with
  | error e =>
    rw [hload] at hloaded
    cases hloaded
  | ok s =>
    rw [hload] at hloaded
    obtain ⟨p, hp, htold⟩ := Option.map_eq_some_iff.mp hloaded
    obtain ⟨hwebsite, htold⟩ := Prod.mk.inj htold
    obtain ⟨hcategories, hblog⟩ := Prod.mk.inj htold
    exact ⟨hperm, s, p, rfl, hp, hwebsite, hcategories, hblog, ((hstore s hload "PHP").1 p).mp hp⟩

end Source
end SiteProbe
