import SiteProbe.Proofs.ByteOrder
import SiteProbe.Proofs.Segments
import SiteProbe.Proofs.SmallLetters
import SiteProbe.Url.Parser

/-!
# Hosts do not end with blanks

A text that ends with a blank or a control character is no host (`Url.webHost_concat_ne_ok`), whatever stands in front
of it: percent signs stand for no more bytes, and no character joins or takes up a blank, be the domain in ASCII or not.
-/

namespace SiteProbe

/-! ## Bytes -/

namespace Url

/-- A blank behind percent signs and digits is a byte of its own. -/
theorem percentDecode_concat (bytes : List UInt8) {b : UInt8} (hb : b ≤ 0x20) :
    percentDecode (bytes ++ [b]) = percentDecode bytes ++ [b] := by
  have hhex : hexByte? b = none := by
    have hle : b.toNat ≤ 32 := hb
    simp only [hexByte?, Bool.and_eq_true, decide_eq_true_eq, UInt8.le_iff_toNat_le]
    have hdigit : UInt8.toNat 48 = 48 := rfl
    have hcapital : UInt8.toNat 65 = 65 := rfl
    have hsmall : UInt8.toNat 97 = 97 := rfl
    rw [if_neg (by omega), if_neg (by omega), if_neg (by omega)]
  fun_induction percentDecode bytes with
  | case1 => rfl
  | case2 a => rfl
  | case3 a c => simp [percentDecode, hhex]
  | case4 => simp_all [percentDecode]
  | case5 => simp_all [percentDecode]

end Url

namespace Utf8

theorem isContinuation_ascii {b : UInt8} (hb : b < 0x80) : isContinuation b = false := by
  have hlow : ¬0x80 ≤ b := UInt8.not_le.mpr hb
  simp only [isContinuation, hlow, decide_false, Bool.false_and]

theorem isSecond_ascii (a : UInt8) {b : UInt8} (hb : b < 0x80) : isSecond a b = false := by
  have hlow {low high : UInt8} (hle : 0x80 ≤ low) : (low ≤ b && b ≤ high) = false := by
    have hlow : ¬low ≤ b := UInt8.not_le.mpr (UInt8.lt_of_lt_of_le hb hle)
    simp only [hlow, decide_false, Bool.false_and]
  unfold isSecond
  split
  · exact hlow (by decide)
  · split
    · exact hlow (by decide)
    · split
      · exact hlow (by decide)
      · split
        · exact hlow (by decide)
        · exact isContinuation_ascii hb

/-- An ASCII byte behind other bytes is a character of its own. -/
theorem decode_concat (bytes : List UInt8) {b : UInt8} (hb : b < 0x80) :
    decode (bytes ++ [b]) = decode bytes ++ [some (scalar b [])] := by
  have hsingle : decode [b] = [some (scalar b [])] := by simp [decode, hb]
  fun_induction decode bytes with
  | case1 => exact hsingle
  | _ =>
    simp only [List.cons_append, List.nil_append] at *
    rw [decode.eq_def]
    simp [*, isContinuation_ascii hb, isSecond_ascii _ hb]

/-- A text of bytes with an ASCII byte at the end. -/
theorem decode?_concat {bytes : List UInt8} {b : UInt8} (hb : b < 0x80) {text : String}
    (h : decode? (bytes ++ [b]) = some text) : ∃ front, text.toList = front ++ [scalar b []] := by
  rw [decode?, decode_concat bytes hb, List.mapM_append] at h
  cases hfront : (decode bytes).mapM id with
  | none =>
    rw [hfront] at h
    cases h
  | some front =>
    rw [hfront] at h
    exact ⟨front, by rw [← Option.some.inj h, String.toList_ofList]; rfl⟩

end Utf8

/-! ## Normal forms -/

namespace CodeSet

theorem exists_of_mem_joinFrom {r e : Nat × Nat} {rs : List (Nat × Nat)} (h : e ∈ joinFrom r rs) :
    ∃ e' ∈ r :: rs, e'.1 = e.1 := by
  induction rs generalizing r with
  | nil => exact ⟨e, h, rfl⟩
  | cons s rest ih =>
    rw [joinFrom] at h
    split at h
    · obtain ⟨e', he', heq⟩ := ih h
      rcases List.mem_cons.mp he' with rfl | he'
      · exact ⟨r, List.mem_cons_self, heq⟩
      · exact ⟨e', by simp [he'], heq⟩
    · rcases List.mem_cons.mp h with rfl | h
      · exact ⟨r, List.mem_cons_self, rfl⟩
      · obtain ⟨e', he', heq⟩ := ih h
        exact ⟨e', .tail _ he', heq⟩

/-- No range of a set starts below all ranges that it is made of. -/
theorem le_of_contains_ofRanges {rs : List (Nat × Nat)} {n bound : Nat} (hrs : ∀ r ∈ rs, bound ≤ r.1)
    (h : (ofRanges rs).contains n) : bound ≤ n := by
  obtain ⟨e, he, hn⟩ := List.any_eq_true.mp h
  have hscalars : ∀ r ∈ (rs.flatMap scalars).mergeSort (fun a b => a.1 ≤ b.1), bound ≤ r.1 := by
    intro r hr
    obtain ⟨r', hr', hr⟩ := List.mem_flatMap.mp (List.mem_mergeSort.mp hr)
    have hle := hrs r' hr'
    have hpart := (List.mem_filter.mp hr).1
    simp only [List.mem_cons, List.not_mem_nil, or_false] at hpart
    rcases hpart with rfl | rfl
    · exact hle
    · exact Nat.le_trans hle (Nat.le_max_left _ _)
  have hjoin : ∀ e ∈ join ((rs.flatMap scalars).mergeSort fun a b => a.1 ≤ b.1), bound ≤ e.1 := by
    intro e he
    cases hsorted : (rs.flatMap scalars).mergeSort (fun a b => a.1 ≤ b.1) with
    | nil =>
      rw [hsorted] at he
      cases he
    | cons r rest =>
      rw [hsorted] at he hscalars
      obtain ⟨e', he', heq⟩ := exists_of_mem_joinFrom he
      exact heq ▸ hscalars e' he'
  simp only [Bool.and_eq_true, decide_eq_true_eq] at hn
  exact Nat.le_trans (hjoin e he) hn.1

end CodeSet

namespace Unicode

/-- Whether all ranges in a row start behind the ASCII characters. -/
def startsHigh (row : List Char) : Bool :=
  (row.foldl RangeReader.step ⟨0, none, []⟩).close.done.all fun r => 0x80 ≤ r.1

theorem not_contains_readRanges {rows : List String} {n : Nat} (hn : n < 0x80)
    (h : rows.all fun row => startsHigh row.toList) : ¬(readRanges rows).contains n := by
  refine fun hcontains => Nat.not_le.mpr hn (CodeSet.le_of_contains_ofRanges (fun r hr => ?_) hcontains)
  obtain ⟨row, hrow, hr⟩ := List.mem_flatMap.mp hr
  rw [String.foldl_eq_foldl_toList] at hr
  exact of_decide_eq_true (List.all_eq_true.mp (List.all_eq_true.mp h row hrow) r (List.mem_reverse.mp hr))

namespace Composition

/-- No ASCII character is a mark. -/
theorem markClass_ascii {n : Nat} (hn : n < 0x80) : markClass n = 0 := by
  have hnone : ∀ k ∈ classes, ¬k.2.contains n := by
    simp only [classes, List.forall_mem_cons, List.not_mem_nil, false_implies, implies_true, and_true]
    repeat' refine And.intro ?_ ?_
    all_goals
      refine not_contains_readRanges hn ?_
      simp only [List.all_cons, List.all_nil]
      -- to take the literals apart here is quicker than to have them decoded
      repeat rw [String.toList_ofList]
      decide +kernel
  rw [markClass, List.find?_eq_none.mpr hnone]
  rfl

/-- No ASCII character comes second in a pair that composes, and none is composed. -/
theorem pairs_not_ascii : pairs.all fun e => 0x80 ≤ e.1 && e.2.all fun r => 0x80 ≤ r.target := by
  simp only [pairs, CodeMap.readRuns_eq, List.flatMap_cons, List.flatMap_nil]
  repeat rw [String.toList_ofList]
  decide +kernel

end Composition

namespace Normal

theorem lookup_parts_ascii {n : Nat} (hn : n < 0x80) : parts.lookup n = none := by
  refine List.lookup_eq_none_iff.mpr fun e he => ?_
  obtain ⟨p, hp, he⟩ := List.mem_flatMap.mp he
  obtain ⟨q, hq, rfl⟩ := List.mem_map.mp he
  obtain ⟨r, hr, hq⟩ := List.mem_flatMap.mp hq
  obtain ⟨i, -, rfl⟩ := List.mem_map.mp hq
  have hpair := List.all_eq_true.mp Composition.pairs_not_ascii p hp
  rw [Bool.and_eq_true, List.all_eq_true] at hpair
  have hle := of_decide_eq_true (hpair.2 r hr)
  rw [bne_iff_ne]
  dsimp only
  omega

theorem takeApart_ascii {n : Nat} (hn : n < 0x80) (fuel : Nat) : takeApart fuel n = [n] := by
  cases fuel with
  | zero => rfl
  | succ fuel =>
    have hsyllable : ¬(syllables ≤ n ∧ n < syllables + 11172) := fun h => by
      have hle : 0xAC00 ≤ n := h.1
      omega
    rw [takeApart, if_neg hsyllable, lookup_parts_ascii hn]

/-- No character composes with an ASCII character behind it. -/
theorem pair?_ascii (first : Nat) {n : Nat} (hn : n < 0x80) : pair? first n = none := by
  have hvowel : ¬vowels ≤ n := fun h => by
    have hle : 0x1161 ≤ n := h
    omega
  have htrailing : ¬trailing < n := fun h => by
    have hle : 0x11A7 < n := h
    omega
  have hkeys : Composition.pairs.lookup n = none := by
    refine List.lookup_eq_none_iff.mpr fun p hp => ?_
    have hpair := List.all_eq_true.mp Composition.pairs_not_ascii p hp
    rw [Bool.and_eq_true, decide_eq_true_eq] at hpair
    rw [bne_iff_ne]
    omega
  rw [pair?, if_neg (by simp [hvowel]), if_neg (by simp [htrailing]), hkeys]
  rfl

theorem sortMarks_concat (marks : List (Nat × Nat)) (ns : List Nat) {n : Nat} (hn : n < 0x80) :
    ∃ front, sortMarks marks (ns ++ [n]) = front ++ [(n, 0)] := by
  induction ns generalizing marks with
  | nil => exact ⟨marks, by rw [List.nil_append, sortMarks, Composition.markClass_ascii hn]; rfl⟩
  | cons m ns ih =>
    rw [List.cons_append, sortMarks]
    split
    · obtain ⟨front, hfront⟩ := ih []
      exact ⟨marks ++ (m, 0) :: front, by rw [hfront]; simp⟩
    · exact ih _

theorem putTogether_concat (starter : Option Nat) (marks ms : List (Nat × Nat)) {n : Nat} (hn : n < 0x80) :
    ∃ front, putTogether starter marks (ms ++ [(n, 0)]) = front ++ [n] := by
  induction ms generalizing starter marks with
  | nil =>
    have hpair (b : Bool) : (starter.bind fun s => if b then pair? s n else none) = none := by
      simp [pair?_ascii _ hn]
    refine ⟨starter.toList ++ marks.reverse.map (·.1), ?_⟩
    rw [List.nil_append, putTogether.eq_def]
    simp only [hpair, if_true]
    rfl
  | cons m ms ih =>
    rw [List.cons_append, putTogether.eq_def]
    dsimp only
    split
    · exact ih _ _
    · split
      · obtain ⟨front, hfront⟩ := ih (some m.1) []
        exact ⟨_, by rw [hfront, ← List.append_assoc]⟩
      · exact ih _ _

theorem compose_concat (cs : List Char) {c : Char} (hc : c.toNat < 0x80) :
    ∃ front, compose (cs ++ [c]) = front ++ [c] := by
  obtain ⟨ms, hms⟩ := sortMarks_concat [] (cs.flatMap fun c => takeApart 5 c.toNat) hc
  obtain ⟨front, hfront⟩ := putTogether_concat none [] ms hc
  refine ⟨front.map Char.ofNat, ?_⟩
  rw [compose, List.flatMap_append, List.flatMap_singleton, takeApart_ascii hc, hms, hfront, List.map_append,
    List.map_singleton, Char.ofNat_toNat]

end Normal
end Unicode

/-! ## Domains -/

namespace Url

variable {c : Char}

theorem ne_of_blank (hc : c.toNat ≤ 0x20) {d : Char} (hd : 0x20 < d.toNat) : c ≠ d := by
  rintro rfl
  omega

theorem scalar_blank (hc : c.toNat ≤ 0x20) : Utf8.scalar (UInt8.ofNat c.toNat) [] = c := by
  show Char.ofNat (UInt8.ofNat c.toNat).toNat = c
  rw [UInt8.toNat_ofNat_of_lt' (Nat.lt_of_le_of_lt hc (by decide)), Char.ofNat_toNat]

namespace Punycode

theorem digit?_blank (hc : c.toNat ≤ 0x20) : digit? c = none := by
  have hall : ∀ c : Char, c.toNat < 0x21 → digit? c = none := Unicode.forall_of_toNat_lt (by decide)
  exact hall c (Nat.lt_succ_of_le hc)

/-- A number ends before a blank. -/
theorem number?_concat (hc : c.toNat ≤ 0x20) {fuel bias i w k j : Nat} {cs rest : List Char}
    (h : number? fuel bias i w k (cs ++ [c]) = some (j, rest)) : ∃ behind, rest = behind ++ [c] := by
  induction fuel generalizing i w k cs with
  | zero => cases h
  | succ fuel ih =>
    cases cs with
    | nil => simp [number?, digit?_blank hc] at h
    | cons d cs =>
      rw [List.cons_append, number?] at h
      obtain ⟨value, -, h⟩ := Option.bind_eq_some_iff.mp h
      dsimp only at h
      split at h
      · cases h
      · split at h
        · cases h
          exact ⟨cs, rfl⟩
        · exact ih h

/-- Numbers with a blank at their end are none. -/
theorem insertAll?_concat (hc : c.toNat ≤ 0x20) (fuel code bias i : Nat) (first : Bool) (out : List Nat)
    (cs : List Char) : insertAll? fuel code bias i first out (cs ++ [c]) = none := by
  have hne (cs : List Char) : cs ++ [c] ≠ [] := by simp
  induction fuel generalizing code bias i first out cs with
  | zero =>
    cases hcs : cs ++ [c] with
    | nil => exact absurd hcs (hne cs)
    | cons d ds => rfl
  | succ fuel ih =>
    rw [insertAll?]
    · cases hnumber : number? (cs ++ [c]).length bias i 1 base (cs ++ [c]) with
      | none => rfl
      | some found =>
        obtain ⟨j, rest⟩ := found
        obtain ⟨behind, rfl⟩ := number?_concat hc hnumber
        show (if _ then none else _) = none
        split
        · rfl
        · exact ih _ _ _ _ _ _
    · exact hne cs

/-- A label with a blank at its end has no ASCII form: behind the last hyphen, numbers are to follow. -/
theorem decode?_concat (hc : c.toNat ≤ 0x20) (cs : List Char) : decode? (cs ++ [c]) = none := by
  unfold decode?
  dsimp only
  generalize hbasic : (((cs ++ [c]).reverse.dropWhile (· ≠ '-')).drop 1).reverse = basic
  have hnumbers : ∃ behind,
      (if (cs ++ [c]).contains '-' then (cs ++ [c]).drop (basic.length + 1) else cs ++ [c]) = behind ++ [c] := by
    split
    · rename_i hhyphen
      have hne : c ≠ '-' := ne_of_blank hc (by decide)
      have hmem : '-' ∈ cs := by simpa [hne.symm] using List.contains_iff_mem.mp hhyphen
      have hle : basic.length + 1 ≤ cs.length := by
        have hdrop : (cs ++ [c]).reverse.dropWhile (· ≠ '-') = cs.reverse.dropWhile (· ≠ '-') := by
          rw [List.reverse_concat, List.dropWhile_cons_of_pos (by simpa using hne)]
        have hlength := (List.dropWhile_suffix (l := cs.reverse) (· ≠ '-')).length_le
        have hpos := List.length_pos_of_mem hmem
        rw [← hbasic, hdrop, List.length_reverse, List.length_drop]
        rw [List.length_reverse] at hlength
        omega
      exact ⟨cs.drop (basic.length + 1), List.drop_append_of_le_length hle⟩
    · exact ⟨cs, rfl⟩
  obtain ⟨behind, hbehind⟩ := hnumbers
  rw [hbehind, insertAll?_concat hc]
  split <;> rfl

end Punycode

namespace Domain

/-- A label with a blank at its end is meant as it stands, if it means anything. -/
theorem decodeLabel?_concat (hc : c.toNat ≤ 0x20) {label decoded : List Char}
    (h : decodeLabel? (label ++ [c]) = some decoded) : decoded = label ++ [c] := by
  unfold decodeLabel? at h
  split at h
  · rename_i hmark
    obtain ⟨rest, hrest⟩ := List.isPrefixOf_iff_prefix.mp hmark
    rcases List.eq_nil_or_concat rest with rfl | ⟨behind, d, rfl⟩
    · have hmark' : ['x', 'n', '-'] ++ ['-'] = label ++ [c] := hrest
      have hlast := (List.append_inj' hmark' rfl).2
      exact absurd (List.cons.inj hlast).1.symm (ne_of_blank hc (by decide))
    · rw [List.concat_eq_append, ← List.append_assoc] at hrest
      obtain ⟨-, hd⟩ := List.append_inj' hrest rfl
      have hdrop : (label ++ [c]).drop 4 = behind ++ [c] := by
        rw [← hrest, (List.cons.inj hd).1]
        rfl
      rw [hdrop, Punycode.decode?_concat hc] at h
      cases h
  · exact (Option.some.inj h).symm

theorem isAllowed_blank (hc : c.toNat ≤ 0x20) : isAllowed c = false := by
  have hlow : ¬0x20 < c.toNat := Nat.not_lt.mpr hc
  simp [isAllowed, hlow]

theorem isLabel_concat (hc : c.toNat ≤ 0x20) (label : List Char) : isLabel (label ++ [c]) = false := by
  have hascii : ¬0x80 ≤ c.toNat := by omega
  simp [isLabel, hascii, isAllowed_blank hc]

theorem normalize?_concat (hc : c.toNat ≤ 0x20) {cs normal : List Char} (h : normalize? (cs ++ [c]) = some normal) :
    ∃ front, normal = front ++ [c] := by
  have hascii : c.toNat < 0x80 := by omega
  have himage : image? c = some [c] := by
    have hall : ∀ c : Char, c.toNat < 0x21 → c.toLower = c := Unicode.forall_of_toNat_lt (by decide)
    rw [image?, if_pos hascii, hall c (Nat.lt_succ_of_le hc)]
  obtain ⟨parts, hparts, rfl⟩ := Option.map_eq_some_iff.mp h
  rw [List.mapM_append] at hparts
  obtain ⟨front, -, hparts⟩ := Option.bind_eq_some_iff.mp hparts
  have hlast : [c].mapM image? = some [[c]] := by simp [himage]
  rw [hlast] at hparts
  obtain rfl := Option.some.inj hparts
  rw [List.flatten_append]
  exact Unicode.Normal.compose_concat _ hascii

theorem labels?_concat (hc : c.toNat ≤ 0x20) (cs : List Char) : labels? (cs ++ [c]) = none := by
  unfold labels?
  cases hnormal : normalize? (cs ++ [c]) with
  | none => rfl
  | some normal =>
    obtain ⟨front, rfl⟩ := normalize?_concat hc hnormal
    have hdot : ∀ d ∈ [c], decide (d = '.') = false := by
      intro d hd
      rw [List.mem_singleton.mp hd]
      exact decide_eq_false (ne_of_blank hc (by decide))
    obtain ⟨init, last, -, hpieces⟩ := Text.exists_pieces_append front [c] hdot
    have hlabels (labels : List (List Char)) (h : (init ++ [last ++ [c]]).mapM decodeLabel? = some labels) :
        labels.all isLabel = false := by
      rw [List.mapM_append] at h
      obtain ⟨before, -, h⟩ := Option.bind_eq_some_iff.mp h
      obtain ⟨behind, hbehind, h⟩ := Option.bind_eq_some_iff.mp h
      rw [List.mapM_cons] at hbehind
      obtain ⟨label, hlabel, hbehind⟩ := Option.bind_eq_some_iff.mp hbehind
      rw [decodeLabel?_concat hc hlabel] at hbehind
      obtain rfl := Option.some.inj hbehind
      obtain rfl := Option.some.inj h
      simp [isLabel_concat hc]
    show ((Text.pieces (· = '.') (front ++ [c])).mapM decodeLabel?).bind _ = none
    rw [hpieces]
    cases hdecoded : (init ++ [last ++ [c]]).mapM decodeLabel? with
    | none => rfl
    | some labels =>
      show (if labels.all isLabel && _ then _ else _) = none
      rw [hlabels labels hdecoded]
      rfl

/-- A domain does not end with a blank. -/
theorem toAscii?_concat (hc : c.toNat ≤ 0x20) (bytes : List UInt8) :
    toAscii? (bytes ++ [UInt8.ofNat c.toNat]) = none := by
  have hbyte : UInt8.ofNat c.toNat < 0x80 := by
    rw [UInt8.lt_iff_toNat_lt, UInt8.toNat_ofNat_of_lt' (Nat.lt_of_le_of_lt hc (by decide))]
    exact Nat.lt_of_le_of_lt hc (by decide)
  unfold toAscii?
  cases htext : Utf8.decode? (bytes ++ [UInt8.ofNat c.toNat]) with
  | none => rfl
  | some text =>
    obtain ⟨front, hfront⟩ := Utf8.decode?_concat hbyte htext
    rw [scalar_blank hc] at hfront
    have hallowed : text.toList.all isAllowed = false := by
      simp [hfront, isAllowed_blank hc]
    have hlabels : labels? text.toList = none := by rw [hfront, labels?_concat hc]
    simp [hallowed, hlabels]

end Domain

/-- A text with a blank or a control character at its end is no host. -/
theorem webHost_concat_ne_ok (hc : c.toNat ≤ 0x20) (cs : List Char) (h : Host) : webHost (cs ++ [c]) ≠ .ok h := by
  have hbyte : UInt8.ofNat c.toNat ≤ 0x20 := by
    rw [UInt8.le_iff_toNat_le, UInt8.toNat_ofNat_of_lt' (Nat.lt_of_le_of_lt hc (by decide))]
    exact hc
  have hencode : Utf8.encode (String.ofList (cs ++ [c])) = Utf8.encode (String.ofList cs) ++ [UInt8.ofNat c.toNat] := by
    have hle : c.val.toNat ≤ 0x7F := Nat.le_trans hc (by decide)
    have hsingle : String.utf8EncodeChar c = [UInt8.ofNat c.toNat] := if_pos hle
    rw [Utf8.encode_eq_flatMap, Utf8.encode_eq_flatMap, String.toList_ofList, String.toList_ofList, List.flatMap_append,
      List.flatMap_singleton, hsingle]
  have hascii : Domain.toAscii? (percentDecode (Utf8.encode (String.ofList (cs ++ [c])))) = none := by
    rw [hencode, percentDecode_concat _ hbyte, Domain.toAscii?_concat hc]
  have hbracket : (cs ++ [c]).getLast? ≠ some ']' := by
    rw [List.getLast?_concat]
    exact fun heq => ne_of_blank hc (by decide) (Option.some.inj heq)
  unfold webHost
  dsimp only
  rw [if_pos hbracket, hascii]
  split <;> exact fun hok => nomatch hok

end Url
end SiteProbe
