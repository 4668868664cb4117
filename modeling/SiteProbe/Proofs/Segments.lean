import Mathlib.Data.List.Basic
import SiteProbe.Proofs.SmallLetters
import SiteProbe.Url.Location

/-!
# Walking along segments

To walk along segments is to walk along the first ones and from there along the others (`Url.walk_append`). So a plain
path, which has no dot segments and nothing to encode, comes to stand behind the directories that were entered before
(`Url.text_readSegments_append`). The end of a text decides whether its last segment is entered: with a slash behind it
it always is, and without one it comes to the same text less a slash (`Url.lessSlash_text_walk`).
-/

namespace SiteProbe

/-! ## Pieces of a text -/

namespace Text

variable {separates : Char → Bool} {cs : List Char}

theorem pieces_ne_nil (separates : Char → Bool) (cs : List Char) : pieces separates cs ≠ [] := by
  cases cs with
  | nil => exact List.cons_ne_nil _ _
  | cons c rest =>
    unfold pieces
    split
    · exact List.cons_ne_nil _ _
    · split <;> exact List.cons_ne_nil _ _

/-- The pieces on both sides of a separator. -/
theorem pieces_append_cons {c : Char} (hc : separates c) (before behind : List Char) :
    pieces separates (before ++ c :: behind) = pieces separates before ++ pieces separates behind := by
  induction before with
  | nil => simp [pieces, hc]
  | cons b before ih =>
    rw [List.cons_append, pieces, pieces, ih]
    split
    · rfl
    · cases hpieces : pieces separates before with
      | nil => exact absurd hpieces (pieces_ne_nil separates before)
      | cons p ps => rfl

/-- What has no separators comes behind the last piece. -/
theorem exists_pieces_append (cs more : List Char) (h : ∀ c ∈ more, separates c = false) :
    ∃ init last, pieces separates cs = init ++ [last] ∧ pieces separates (cs ++ more) = init ++ [last ++ more] := by
  induction cs with
  | nil =>
    refine ⟨[], [], rfl, ?_⟩
    induction more with
    | nil => rfl
    | cons c more ih =>
      have hrest := ih fun d hd => h d (.tail _ hd)
      simp only [List.nil_append] at hrest ⊢
      rw [pieces, h c List.mem_cons_self, hrest]
      rfl
  | cons c cs ih =>
    obtain ⟨init, last, hcs, hmore⟩ := ih
    rw [List.cons_append, pieces, pieces, hcs, hmore]
    by_cases hc : separates c
    · exact ⟨[] :: init, last, by simp [hc], by simp [hc]⟩
    · cases init with
      | nil => exact ⟨[], c :: last, by simp [hc], by simp [hc]⟩
      | cons p ps => exact ⟨(c :: p) :: ps, last, by simp [hc], by simp [hc]⟩

/-- Behind a separator at the end there is an empty piece. -/
theorem last_eq_nil {init : List (List Char)} {last : List Char} (h : pieces separates cs = init ++ [last])
    (hend : ∀ c ∈ cs.getLast?, separates c) : last = [] := by
  rcases List.eq_nil_or_concat cs with rfl | ⟨front, d, rfl⟩
  · have hnil : [] ++ [[]] = init ++ [last] := h
    exact (List.cons.inj (List.append_inj' hnil rfl).2).1.symm
  · rw [List.concat_eq_append] at h hend
    rw [pieces_append_cons (hend d List.getLast?_concat)] at h
    exact (List.cons.inj (List.append_inj' h rfl).2).1.symm

/-- The characters of a piece are those of the text that separate nothing. -/
theorem mem_of_mem_pieces {p : List Char} (hp : p ∈ pieces separates cs) :
    ∀ c ∈ p, c ∈ cs ∧ separates c = false := by
  induction cs generalizing p with
  | nil =>
    rw [List.mem_singleton.mp hp]
    exact fun c hc => nomatch hc
  | cons d rest ih =>
    have htail {q : List Char} (hq : q ∈ pieces separates rest) : ∀ c ∈ q, c ∈ d :: rest ∧ separates c = false :=
      fun c hc => ⟨.tail _ (ih hq c hc).1, (ih hq c hc).2⟩
    unfold pieces at hp
    split at hp
    · rcases List.mem_cons.mp hp with rfl | hp
      · exact fun c hc => nomatch hc
      · exact htail hp
    · rename_i hd
      cases hpieces : pieces separates rest with
      | nil => exact absurd hpieces (pieces_ne_nil separates rest)
      | cons q qs =>
        rw [hpieces] at hp htail
        rcases List.mem_cons.mp hp with rfl | hp
        · rintro c (_ | ⟨_, hc⟩)
          · exact ⟨List.mem_cons_self, by simpa using hd⟩
          · exact htail List.mem_cons_self c hc
        · exact htail (.tail _ hp)

/-- The pieces between slashes, each behind a slash, are the text behind a slash. -/
theorem flatMap_pieces (h : ∀ c ∈ cs, separates c ↔ c = '/') :
    (pieces separates cs).flatMap ('/' :: ·) = '/' :: cs := by
  induction cs with
  | nil => rfl
  | cons c rest ih =>
    have hrest := ih fun d hd => h d (.tail _ hd)
    unfold pieces
    split
    · rename_i hc
      rw [(h c List.mem_cons_self).mp hc, List.flatMap_cons, hrest]
      rfl
    · cases hpieces : pieces separates rest with
      | nil => exact absurd hpieces (pieces_ne_nil separates rest)
      | cons p ps =>
        rw [hpieces] at hrest
        simpa using hrest

end Text

/-! ## Texts of paths -/

namespace Url

/-- A text less the slash at its end, if there is one. -/
def lessSlash (s : String) : String :=
  if s.toList.getLast? = some '/' then String.ofList s.toList.dropLast else s

theorem lessSlash_append_slash (s : String) : lessSlash (s ++ "/") = s := by
  rw [lessSlash, if_pos (by simp)]
  simp

theorem length_lessSlash_le (s : String) : (lessSlash s).length ≤ s.length := by
  unfold lessSlash
  split
  · rw [String.length_ofList, List.length_dropLast, String.length_toList]
    exact Nat.sub_le _ _
  · exact Nat.le_refl _

/-- A path with a slash at its front, unless it is empty. -/
def rooted (path : String) : String :=
  match path.toList with
  | [] => path
  | '/' :: _ => path
  | _ => "/" ++ path

/-- The address of a path is the one of the path with a slash at its front. -/
theorem probeAddress_eq (target path : String) : probeAddress target path = lessSlash target ++ rooted path := by
  unfold probeAddress lessSlash rooted
  rcases path.toList with _ | ⟨c, rest⟩
  · rfl
  · by_cases hc : c = '/'
    · subst hc
      rfl
    · simp [hc, String.append_assoc]

/-- Paths have one address if they differ in the slash at their front at most. -/
theorem probeAddress_eq_iff {target p q : String} :
    probeAddress target p = probeAddress target q ↔ rooted p = rooted q := by
  rw [probeAddress_eq, probeAddress_eq, ← String.toList_inj, String.toList_append, String.toList_append,
    List.append_cancel_left_eq, String.toList_inj]

theorem toList_text_segments (ss : List String) :
    (Path.segments ss).text.toList = ss.flatMap fun s => '/' :: s.toList := by
  rw [Path.text, String.toList_join, List.flatMap_map]
  exact List.flatMap_congr fun s _ => by rw [String.toList_append]; rfl

theorem text_segments_append (ss ts : List String) :
    (Path.segments (ss ++ ts)).text = (Path.segments ss).text ++ (Path.segments ts).text := by
  rw [← String.toList_inj, String.toList_append, toList_text_segments, toList_text_segments, toList_text_segments,
    List.flatMap_append]

theorem text_segments_concat (ss : List String) (s : String) :
    (Path.segments (ss ++ [s])).text = (Path.segments ss).text ++ "/" ++ s := by
  rw [text_segments_append, ← String.toList_inj]
  simp [toList_text_segments]

/-! ## Steps -/

/-- The directories behind a segment that another one follows, the last one first. -/
def enter (entered : List String) (s : String) : List String :=
  if isDoubleDot s then leave entered else if isDot s then entered else s :: entered

theorem walk_cons {entered rest : List String} (s : String) (hrest : rest ≠ []) :
    walk entered (s :: rest) = walk (enter entered s) rest := by
  cases rest with
  | nil => exact absurd rfl hrest
  | cons t rest =>
    rw [walk, enter]
    · split
      · rfl
      · split <;> rfl
    · exact fun h => nomatch h

/-- To walk along segments and then along others. -/
theorem walk_append {others : List String} (hothers : others ≠ []) (ss entered : List String) :
    walk entered (ss ++ others) = walk (ss.foldl enter entered) others := by
  induction ss generalizing entered with
  | nil => rfl
  | cons s rest ih =>
    rw [List.cons_append, walk_cons s (by simp [hothers]), ih]
    rfl

/-- A segment that is no dot segment. -/
def IsName (s : String) : Prop := isDot s = false ∧ isDoubleDot s = false

theorem enter_of_isName {s : String} (h : IsName s) (entered : List String) : enter entered s = s :: entered := by
  simp [enter, h.1, h.2]

theorem walk_singleton_of_isName {s : String} (h : IsName s) (entered : List String) :
    walk entered [s] = s :: entered := by
  simp [walk, h.1, h.2]

/-- To walk along names enters all of them. -/
theorem walk_of_isName {ss : List String} (h : ∀ s ∈ ss, IsName s) (entered : List String) :
    walk entered ss = ss.reverse ++ entered := by
  induction ss generalizing entered with
  | nil => rfl
  | cons s rest ih =>
    by_cases hrest : rest = []
    · rw [hrest, walk_singleton_of_isName (h s List.mem_cons_self)]
      rfl
    · rw [walk_cons s hrest, enter_of_isName (h s List.mem_cons_self), ih fun t ht => h t (.tail _ ht)]
      simp

/-- The text of a walk whose last segment is not empty is the one of the directories that it leads to, with a slash at
its end or not. -/
theorem lessSlash_text_walk {s : String} (hempty : s ≠ "") (hslash : '/' ∉ s.toList) (entered : List String) :
    lessSlash (Path.segments (walk entered [s]).reverse).text = (Path.segments (enter entered s).reverse).text := by
  have hopen (ds : List String) :
      lessSlash (Path.segments ("" :: ds).reverse).text = (Path.segments ds.reverse).text := by
    rw [List.reverse_cons, text_segments_concat, String.append_empty, lessSlash_append_slash]
  unfold walk enter
  split
  · exact hopen _
  · split
    · exact hopen _
    · refine if_neg fun hlast => ?_
      have hne : s.toList ≠ [] := by simpa using hempty
      rw [List.reverse_cons, text_segments_concat, String.toList_append, List.getLast?_append,
        List.getLast?_eq_some_getLast hne, Option.some_or] at hlast
      exact hslash (Option.some.inj hlast ▸ List.getLast_mem hne)

theorem length_text_leave_le (entered : List String) :
    (Path.segments (leave entered).reverse).text.length ≤ (Path.segments entered.reverse).text.length := by
  cases entered with
  | nil => exact Nat.le_refl _
  | cons d ds =>
    rw [leave]
    split
    · exact Nat.le_refl _
    · rw [List.reverse_cons, text_segments_concat, String.length_append, String.length_append]
      omega

/-- The last step adds no more than the segment and a slash. -/
theorem length_text_walk_le (s : String) (entered : List String) :
    (Path.segments (walk entered [s]).reverse).text.length ≤
      (Path.segments entered.reverse).text.length + 1 + s.length := by
  have hslash : "/".length = 1 := rfl
  have hleave := length_text_leave_le entered
  unfold walk
  split
  · rw [List.reverse_cons, text_segments_concat, String.length_append, String.length_append, hslash,
      String.length_empty]
    omega
  · split
    · rw [List.reverse_cons, text_segments_concat, String.length_append, String.length_append, hslash,
        String.length_empty]
      omega
    · refine Nat.le_of_eq ?_
      rw [List.reverse_cons, text_segments_concat, String.length_append, String.length_append, hslash]

/-! ## Plain paths -/

/-- A character that stands for itself in a path: an ASCII letter, a digit, a hyphen or an underscore. -/
def isPlain (c : Char) : Bool := c.isAlphanum || c = '-' || c = '_'

/-- A path of plain characters behind slashes. -/
structure IsPlainPath (path : String) : Prop where
  starts : path.toList.head? = some '/'
  plain : ∀ c ∈ path.toList, isPlain c ∨ c = '/'

instance (path : String) : Decidable (IsPlainPath path) :=
  decidable_of_iff (path.toList.head? = some '/' ∧ path.toList.all (fun c => isPlain c || c = '/') = true)
    ⟨fun ⟨hstarts, hplain⟩ => ⟨hstarts, by simpa using hplain⟩, fun h => ⟨h.starts, by simpa using h.plain⟩⟩

theorem toNat_lt_of_isPlain {c : Char} (h : isPlain c) : c.toNat < 128 := by
  simp only [isPlain, Bool.or_eq_true, decide_eq_true_eq] at h
  rcases h with (h | rfl) | rfl
  · exact Unicode.toNat_lt_of_isAlphanum h
  · decide
  · decide

theorem percentChar_of_isPlain {c : Char} (h : isPlain c) : percentChar pathSet c = [c] := by
  have hall : ∀ c : Char, c.toNat < 128 → isPlain c → percentChar pathSet c = [c] :=
    Unicode.forall_of_toNat_lt (by decide +kernel)
  exact hall c (toNat_lt_of_isPlain h) h

theorem toList_toLower (s : String) : s.toLower.toList = s.toList.map Char.toLower := String.toList_map

/-- A dot segment starts with a dot or a percent sign. -/
theorem isName_of_isPlain {s : String} (h : ∀ c ∈ s.toList, isPlain c) : IsName s := by
  have hall : ∀ c : Char, c.toNat < 128 → isPlain c → c.toLower ∉ ['.', '%'] :=
    Unicode.forall_of_toNat_lt (by decide +kernel)
  have hfront {word : String} (hword : ∃ c ∈ word.toList.head?, c ∈ ['.', '%']) : s.toLower ≠ word := by
    rintro rfl
    obtain ⟨d, hd, hmem⟩ := hword
    rw [toList_toLower, List.head?_map] at hd
    obtain ⟨c, hc, rfl⟩ := Option.map_eq_some_iff.mp hd
    have hplain := h c (List.mem_of_head? hc)
    exact hall c (toNat_lt_of_isPlain hplain) hplain hmem
  constructor <;> simp [isDot, isDoubleDot, hfront]

theorem percentEncode_append (set cs ds : List Char) :
    percentEncode set (cs ++ ds) = percentEncode set cs ++ percentEncode set ds := by
  rw [percentEncode, List.flatMap_append, String.ofList_append]
  rfl

theorem percentEncode_of_isPlain {cs : List Char} (h : ∀ c ∈ cs, isPlain c) :
    percentEncode pathSet cs = String.ofList cs := by
  unfold percentEncode
  rw [List.flatMap_congr fun c hc => percentChar_of_isPlain (h c hc)]
  simp

theorem percentChar_ne_nil (set : List Char) (c : Char) : percentChar set c ≠ [] := by
  unfold percentChar
  split
  · have hlength := String.length_utf8EncodeChar c
    cases hbytes : String.utf8EncodeChar c with
    | nil =>
      rw [hbytes] at hlength
      exact absurd hlength (Nat.ne_of_lt c.utf8Size_pos)
    | cons b bs => exact List.cons_ne_nil _ _
  · exact List.cons_ne_nil _ _

theorem percentEncode_ne_empty (set : List Char) {cs : List Char} (h : cs ≠ []) : percentEncode set cs ≠ "" := by
  cases cs with
  | nil => exact absurd rfl h
  | cons c cs =>
    rw [percentEncode, List.flatMap_cons]
    simp [percentChar_ne_nil]

theorem slash_not_mem_percentByte (b : UInt8) : '/' ∉ percentByte b := by
  have hdigit : ∀ n < 16, hexDigit n ≠ '/' := by decide
  have hb : b.toNat < 256 := b.toNat_lt
  have hhigh := hdigit (b.toNat / 16) (by omega)
  have hlow := hdigit (b.toNat % 16) (by omega)
  simp [percentByte, hhigh.symm, hlow.symm]

theorem slash_not_mem_percentEncode (set : List Char) {cs : List Char} (h : '/' ∉ cs) :
    '/' ∉ (percentEncode set cs).toList := by
  rw [percentEncode, String.toList_ofList, List.mem_flatMap]
  rintro ⟨c, hc, hslash⟩
  unfold percentChar at hslash
  split at hslash
  · obtain ⟨b, -, hb⟩ := List.mem_flatMap.mp hslash
    exact slash_not_mem_percentByte b hb
  · rw [List.mem_singleton.mp hslash] at h
    exact h hc

/-! ## Paths behind hosts -/

variable {scheme path : String} {cs : List Char}

/-- The directories of a path text that another segment follows, the last one first. -/
def directories (scheme : String) : List Char → List String
  | [] => []
  | _ :: rest => ((Text.pieces (isSlash scheme) rest).map (percentEncode pathSet)).foldl enter []

theorem IsPlainPath.isSlash_iff (h : IsPlainPath path) (scheme : String) :
    ∀ c ∈ path.toList, isSlash scheme c ↔ c = '/' := by
  intro c hc
  have hplain : ¬isPlain '\\' := by decide
  rcases h.plain c hc with hc | rfl
  · have hne : c ≠ '\\' := fun heq => hplain (heq ▸ hc)
    simp [isSlash, hne]
  · simp [isSlash]

theorem IsPlainPath.exists_eq_cons (h : IsPlainPath path) : ∃ rest, path.toList = '/' :: rest := by
  have hstarts := h.starts
  cases hpath : path.toList with
  | nil =>
    rw [hpath] at hstarts
    cases hstarts
  | cons c rest =>
    rw [hpath] at hstarts
    exact ⟨rest, by rw [Option.some.inj hstarts]⟩

theorem IsPlainPath.rooted_eq (h : IsPlainPath path) : rooted path = path := by
  obtain ⟨rest, hrest⟩ := h.exists_eq_cons
  simp only [rooted, hrest]

/-- The segments of a plain path are its pieces. -/
theorem text_walk_of_isPlainPath (h : IsPlainPath path) {rest : List Char} (hrest : path.toList = '/' :: rest)
    (entered : List String) :
    (Path.segments (walk entered ((Text.pieces (isSlash scheme) rest).map (percentEncode pathSet))).reverse).text =
      (Path.segments entered.reverse).text ++ path := by
  have hpiece : ∀ p ∈ Text.pieces (isSlash scheme) rest, ∀ c ∈ p, isPlain c := by
    intro p hp c hc
    obtain ⟨hmem, hsep⟩ := Text.mem_of_mem_pieces hp c hc
    refine (h.plain c (hrest ▸ .tail _ hmem)).resolve_right ?_
    rintro rfl
    cases hsep
  have hencode : (Text.pieces (isSlash scheme) rest).map (percentEncode pathSet) =
      (Text.pieces (isSlash scheme) rest).map String.ofList :=
    List.map_congr_left fun p hp => percentEncode_of_isPlain (hpiece p hp)
  have hname : ∀ s ∈ (Text.pieces (isSlash scheme) rest).map String.ofList, IsName s := by
    intro s hs
    obtain ⟨p, hp, rfl⟩ := List.mem_map.mp hs
    exact isName_of_isPlain (by simpa using hpiece p hp)
  rw [hencode, walk_of_isName hname, List.reverse_append, List.reverse_reverse, text_segments_append]
  congr 1
  have hslash : ∀ c ∈ rest, isSlash scheme c ↔ c = '/' := fun c hc => h.isSlash_iff scheme c (hrest ▸ .tail _ hc)
  rw [← String.toList_inj, toList_text_segments, List.flatMap_map, hrest, ← Text.flatMap_pieces hslash]
  exact List.flatMap_congr fun p _ => by rw [String.toList_ofList]

/-- A plain path behind a path text. -/
theorem text_readPathAfterHost_append (hcs : ∀ c ∈ cs.head?, isSlash scheme c) (hpath : IsPlainPath path) :
    (readPathAfterHost scheme (cs ++ path.toList)).text =
      (Path.segments (directories scheme cs).reverse).text ++ path := by
  obtain ⟨rest, hrest⟩ := hpath.exists_eq_cons
  have hslash : isSlash scheme '/' := by simp [isSlash]
  cases cs with
  | nil =>
    rw [List.nil_append, hrest, readPathAfterHost, if_pos hslash, readSegments]
    exact text_walk_of_isPlainPath hpath hrest []
  | cons c cs =>
    rw [List.cons_append, readPathAfterHost, if_pos (hcs c rfl), readSegments, hrest,
      Text.pieces_append_cons hslash, List.map_append, walk_append (by simp [Text.pieces_ne_nil])]
    exact text_walk_of_isPlainPath hpath hrest _

/-- The text of a path without a slash at its end. -/
theorem lessSlash_text_readPathAfterHost (hweb : isWeb scheme) (hcs : ∀ c ∈ cs.head?, isSlash scheme c)
    (hlast : ∀ c ∈ cs.getLast?, ¬isSlash scheme c) :
    lessSlash (readPathAfterHost scheme cs).text = (Path.segments (directories scheme cs).reverse).text := by
  cases cs with
  | nil =>
    rw [readPathAfterHost, if_pos hweb]
    exact lessSlash_append_slash ""
  | cons c cs =>
    rcases List.eq_nil_or_concat cs with rfl | ⟨front, d, rfl⟩
    · exact absurd (hcs c rfl) (hlast c rfl)
    · rw [List.concat_eq_append] at hlast ⊢
      have hd : isSlash scheme d = false := by
        simpa using hlast d (by rw [← List.cons_append]; exact List.getLast?_concat)
      obtain ⟨init, last, -, hpieces⟩ := Text.exists_pieces_append front [d] (by simpa using hd)
      have hmem : last ++ [d] ∈ Text.pieces (isSlash scheme) (front ++ [d]) := by simp [hpieces]
      have hslash : '/' ∉ last ++ [d] := by
        intro hslash
        have hsep := (Text.mem_of_mem_pieces hmem '/' hslash).2
        simp [isSlash] at hsep
      rw [readPathAfterHost, if_pos (hcs c rfl), readSegments, directories, hpieces, List.map_append,
        List.foldl_append, List.map_singleton, walk_append (List.cons_ne_nil _ _)]
      exact lessSlash_text_walk (percentEncode_ne_empty _ (by simp)) (slash_not_mem_percentEncode _ hslash) _

/-- No dot segment ends with a blank or a control character. -/
theorem isName_percentEncode (front : List Char) {c : Char} (hc : c.toNat ≤ 0x20) :
    IsName (percentEncode pathSet (front ++ [c])) := by
  have hall : ∀ c : Char, c.toNat < 0x21 → ∀ word ∈ [".", "%2e", "..", ".%2e", "%2e.", "%2e%2e"],
      ¬(percentChar pathSet c).map Char.toLower <:+ word.toList :=
    Unicode.forall_of_toNat_lt (by decide +kernel)
  have hword : ∀ word ∈ [".", "%2e", "..", ".%2e", "%2e.", "%2e%2e"],
      (percentEncode pathSet (front ++ [c])).toLower ≠ word := by
    rintro word hword heq
    refine hall c (Nat.lt_succ_of_le hc) word hword ?_
    have hc' : (percentEncode pathSet [c]).toList = percentChar pathSet c := by simp [percentEncode]
    rw [← heq, toList_toLower, percentEncode_append, String.toList_append, List.map_append, hc']
    exact List.suffix_append _ _
  simp only [List.mem_cons, List.not_mem_nil, or_false, forall_eq_or_imp, forall_eq] at hword
  simp [IsName, isDot, isDoubleDot, hword]

/-- A segment that goes on behind the end of a path text is longer than what the text would be without it. -/
theorem length_lessSlash_lt {c : Char} {more : List Char} (hc : isSlash scheme c) (hmore : ∀ d ∈ more, d.toNat ≤ 0x20)
    (hlast : more = [] → ∀ d ∈ (c :: cs).getLast?, isSlash scheme d) :
    (lessSlash (readPathAfterHost scheme (c :: cs)).text).length <
      (Path.segments (directories scheme (c :: cs ++ more)).reverse).text.length := by
  have hsep : ∀ d ∈ more, isSlash scheme d = false := by
    intro d hd
    have hle := hmore d hd
    have hne : d ≠ '/' ∧ d ≠ '\\' := by
      constructor <;> rintro rfl <;> exact absurd hle (by decide)
    simp [isSlash, hne]
  obtain ⟨init, last, hcs, hgone⟩ := Text.exists_pieces_append cs more hsep
  rw [readPathAfterHost, if_pos hc, readSegments, List.cons_append, directories, hcs, hgone, List.map_append,
    List.map_append, List.foldl_append, List.map_singleton, List.map_singleton, walk_append (List.cons_ne_nil _ _)]
  generalize (init.map (percentEncode pathSet)).foldl enter [] = entered
  rcases List.eq_nil_or_concat more with rfl | ⟨front, d, rfl⟩
  · have hempty : last = [] := by
      refine Text.last_eq_nil hcs fun d hd => hlast rfl d ?_
      rw [List.getLast?_cons, hd]
      rfl
    have hname : IsName "" := isName_of_isPlain (by simp)
    have hnil : percentEncode pathSet [] = "" := rfl
    rw [hempty, List.append_nil, List.foldl_cons, List.foldl_nil, hnil, enter_of_isName hname,
      walk_singleton_of_isName hname, List.reverse_cons, text_segments_concat, String.append_empty,
      lessSlash_append_slash, String.length_append]
    exact Nat.lt_succ_self _
  · rw [List.concat_eq_append] at hmore ⊢
    have hlength := length_text_walk_le (percentEncode pathSet last) entered
    have hless := length_lessSlash_le (Path.segments (walk entered [percentEncode pathSet last]).reverse).text
    have hslash : "/".length = 1 := rfl
    have hname := isName_percentEncode (last ++ front) (hmore d (by simp))
    have hlonger : percentEncode pathSet (front ++ [d]) ≠ "" := percentEncode_ne_empty _ (by simp)
    rw [ne_eq, ← String.length_eq_zero_iff] at hlonger
    rw [List.append_assoc] at hname
    rw [List.foldl_cons, List.foldl_nil, enter_of_isName hname, List.reverse_cons, text_segments_concat,
      percentEncode_append, String.length_append, String.length_append, String.length_append, hslash]
    omega

end Url
end SiteProbe
