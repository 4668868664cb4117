import SiteProbe.Proofs.BlankHosts
import SiteProbe.Proofs.Calls
import SiteProbe.Proofs.Reading
import SiteProbe.Proofs.Segments

/-!
# Addresses of plain paths

The address of a probe's path is the text of the target with the path behind it. If this text ends plainly
(`Url.EndsPlainly`) and the target has neither a query nor a fragment, the address of a plain path leads to it
(`Url.exists_leadsTo`). Otherwise the path comes to stand in the query or the fragment (`Url.exists_path_eq`), or behind
a slash or a blank too much, if the address is a URL at all (`Url.not_leadsTo_of_not_endsPlainly`). The calls of a
detection are for such addresses (`Detector.detect_addresses`).
-/

namespace SiteProbe.Url

/-! ## Ends of URLs -/

variable {scheme path : String} {a : Authority} {cs rest : List Char}

/-- Whether a character ends a path. -/
def endsPath (c : Char) : Bool := c = '?' || c = '#'

theorem cutPath_eq (cs : List Char) : cutPath cs = (cs.takeWhile (!endsPath ·), cs.dropWhile (!endsPath ·)) := by
  have hgoes : (fun c : Char => c ≠ '?' && c ≠ '#') = fun c => !endsPath c := by
    funext c
    simp [endsPath]
  rw [cutPath, hgoes]

theorem cutPath_of_forall (h : ∀ c ∈ cs, endsPath c = false) : cutPath cs = (cs, []) := by
  have hgoes : ∀ c ∈ cs, (!endsPath c) = true := fun c hc => by rw [h c hc]; rfl
  rw [cutPath_eq, List.takeWhile_eq_self_iff.mpr hgoes, List.dropWhile_eq_nil_iff.mpr hgoes]

/-- What comes behind the end of a path is not part of it. -/
theorem cutPath_append (h : ¬∀ c ∈ cs, endsPath c = false) (more : List Char) :
    (cutPath (cs ++ more)).1 = (cutPath cs).1 := by
  rw [cutPath_eq, cutPath_eq, List.takeWhile_append, if_neg]
  intro hlength
  have hall := List.takeWhile_eq_self_iff.mp ((List.takeWhile_prefix _).eq_of_length hlength)
  exact h fun c hc => by simpa using hall c hc

/-- A URL has neither a query nor a fragment if nothing ends its path. -/
theorem hosted_end_iff : ((hosted scheme a rest).query = none ∧ (hosted scheme a rest).fragment = none) ↔
    ∀ c ∈ rest, endsPath c = false := by
  constructor
  · rintro ⟨hquery, hfragment⟩ c hc
    have hhead := head?_dropWhile (!endsPath ·) rest
    have hnil : rest.dropWhile (!endsPath ·) = [] := by
      cases hdrop : rest.dropWhile (!endsPath ·) with
      | nil => rfl
      | cons d behind =>
        simp only [hosted, cutPath_eq, hdrop] at hquery hfragment
        have hd := hhead d (by rw [hdrop]; rfl)
        simp only [endsPath, Bool.not_eq_false', Bool.or_eq_true, decide_eq_true_eq] at hd
        rcases hd with rfl | rfl
        · cases hquery
        · cases hfragment
    simpa using List.dropWhile_eq_nil_iff.mp hnil c hc
  · intro h
    simp [hosted, cutPath_of_forall h, readEnd]

/-! ## Blanks behind hosts -/

theorem placeOf_concat {c : Char} (hc : c.toNat ≤ 0x20) (front : List Char) :
    ∃ place, placeOf (front ++ [c]) = place ++ [c] := by
  have hat : c ≠ '@' := ne_of_blank hc (by decide)
  unfold placeOf cutUser?
  split
  · refine ⟨(front.reverse.takeWhile (· ≠ '@')).reverse, ?_⟩
    rw [Option.getD_some, List.reverse_concat, List.takeWhile_cons_of_pos (by simpa using hat), List.reverse_cons]
  · exact ⟨front, rfl⟩

theorem head?_takeHost (inside : Bool) (cs : List Char) : ∀ c ∈ (takeHost inside cs).2.head?, c = ':' := by
  induction cs generalizing inside with
  | nil => exact fun c hc => nomatch hc
  | cons d rest ih =>
    unfold takeHost
    split
    · rename_i hd
      rw [Bool.and_eq_true, decide_eq_true_eq] at hd
      exact fun c hc => (Option.some.inj hc).symm.trans hd.1
    · exact ih _

/-- What names a host has no blank at its end, neither behind the host nor behind its port. -/
theorem not_names_concat {front : List Char} {c : Char} (hc : c.toNat ≤ 0x20) : ¬Names scheme (front ++ [c]) a := by
  intro h
  obtain ⟨place, hplace⟩ := placeOf_concat hc front
  obtain ⟨-, hhost, hport, -, -⟩ := h
  rw [hplace] at hhost hport
  have happend := takeHost_append false (place ++ [c])
  have hhead := head?_takeHost false (place ++ [c])
  rcases List.eq_nil_or_concat (takeHost false (place ++ [c])).2 with hnil | ⟨before, d, hconcat⟩
  · rw [hnil, List.append_nil] at happend
    rw [happend] at hhost
    exact webHost_concat_ne_ok hc place a.host hhost
  · rw [List.concat_eq_append] at hconcat
    rw [hconcat, ← List.append_assoc] at happend
    obtain rfl := (List.cons.inj (List.append_inj' happend rfl).2).1
    cases before with
    | nil => exact ne_of_blank hc (by decide) (hhead d (by rw [hconcat]; rfl))
    | cons e before =>
      rw [hconcat] at hport
      have hdigit := isDigit_of_readPort hport d (by simp)
      have hnot : ∀ c : Char, c.toNat < 0x21 → ¬c.isDigit := Unicode.forall_of_toNat_lt (by decide)
      exact hnot d (Nat.lt_succ_of_le hc) hdigit

/-! ## Addresses -/

theorem counts_of_isPlain {c : Char} (h : isPlain c ∨ c = '/') :
    isOuter c = false ∧ isBreak c = false ∧ endsPath c = false := by
  have hall : ∀ c : Char, c.toNat < 128 → isPlain c ∨ c = '/' →
      isOuter c = false ∧ isBreak c = false ∧ endsPath c = false :=
    Unicode.forall_of_toNat_lt (by decide +kernel)
  exact hall c (h.elim toNat_lt_of_isPlain fun hc => hc ▸ by decide) h

theorem isPlainPath_slash : IsPlainPath "/" := by decide

/-- What counts of the address of a plain path. -/
theorem clean_probeAddress (target : String) (hpath : IsPlainPath path) :
    clean (probeAddress target path) = begun (lessSlash target).toList ++ path.toList := by
  have hcounts : ∀ c ∈ path.toList, isOuter c = false ∧ isBreak c = false ∧ endsPath c = false :=
    fun c hc => counts_of_isPlain (hpath.plain c hc)
  obtain ⟨rest, hrest⟩ := hpath.exists_eq_cons
  have hne : path.toList ≠ [] := by rw [hrest]; exact List.cons_ne_nil _ _
  refine clean_of_append ?_ (fun c hc => (hcounts c hc).2.1) ?_ ?_
  · rw [probeAddress_eq, hpath.rooted_eq, String.toList_append]
  · exact ⟨'/', hpath.starts, by decide⟩
  · exact ⟨path.toList.getLast hne, List.getLast?_eq_some_getLast hne, (hcounts _ (List.getLast_mem hne)).1⟩

theorem IsPlainPath.ended (h : IsPlainPath path) (scheme : String) :
    ∀ c ∈ path.toList.head?, endsAuthority scheme c := by
  intro c hc
  rw [h.starts] at hc
  obtain rfl := Option.some.inj hc
  simp [endsAuthority, isSlash]

/-- How the address of a plain path on a target is read: with the same host, and the path behind what is left of the
target. -/
theorem parse_probeAddress {head front left : List Char} {input : String} {target : Url}
    (hopens : Opens target.scheme head) (hparts : Parts target front rest a)
    (hleft : begun (lessSlash input).toList = head ++ (front ++ left))
    (hended : ∀ c ∈ left.head?, endsAuthority target.scheme c) (hpath : IsPlainPath path) :
    parse (probeAddress input path) = .ok (hosted target.scheme a (left ++ path.toList)) := by
  have hclean : clean (probeAddress input path) = head ++ (front ++ (left ++ path.toList)) := by
    rw [clean_probeAddress input hpath, hleft, List.append_assoc, List.append_assoc]
  refine (hopens _ _ _ hclean hparts.names.ne_nil hparts.unended ?_ _).mpr ⟨a, hparts.names, rfl⟩
  intro c hc
  cases left with
  | nil => exact hpath.ended target.scheme c hc
  | cons d left => exact hended c hc

/-! ## Texts that end plainly -/

/-- A text ends with a slash, or with what counts in it, if that is no slash of either kind. -/
def EndsPlainly (input : String) : Prop :=
  input.toList.getLast? = some '/' ∨ trailing input = [] ∧ ∀ c ∈ (clean input).getLast?, c ≠ '/' ∧ c ≠ '\\'

/-- A URL leads to a path on a target: it has the scheme, the host and the port of the target, and the path behind the
target's path less the slash at its end. -/
structure LeadsTo (v target : Url) (path : String) : Prop where
  scheme : v.scheme = target.scheme
  host : v.host = target.host
  port : v.port = target.port
  path : v.path.text = lessSlash target.path.text ++ path

variable {left : List Char} {head front : List Char} {input : String} {target : Url}

theorem probeAddress_slash (h : input.toList.getLast? = some '/') : probeAddress input "/" = input := by
  rw [probeAddress_eq, isPlainPath_slash.rooted_eq, lessSlash, if_pos h, ← String.toList_inj, String.toList_append,
    String.toList_ofList]
  exact List.dropLast_append_getLast? '/' h

/-- A text with a slash at its end is what is left of it, and the slash. -/
theorem exists_left_of_slash (h : input.toList.getLast? = some '/') (hclean : clean input = head ++ (front ++ rest))
    (hparts : Parts target front rest a) : ∃ left, rest = left ++ ['/'] ∧
      begun (lessSlash input).toList = head ++ (front ++ left) ∧
        ∀ c ∈ left.head?, endsAuthority target.scheme c := by
  have hslash : _ = begun (lessSlash input).toList ++ ['/'] := clean_probeAddress input isPlainPath_slash
  rw [probeAddress_slash h, hclean] at hslash
  rcases List.eq_nil_or_concat rest with rfl | ⟨left, d, rfl⟩
  · have hne := hparts.names.ne_nil
    have hlast := hparts.unended _ (List.getLast_mem hne)
    rw [List.append_nil, ← List.dropLast_append_getLast hne, ← List.append_assoc] at hslash
    have hd := (List.append_inj' hslash rfl).2
    rw [(List.cons.inj hd).1] at hlast
    simp [endsAuthority, isSlash] at hlast
  · rw [List.concat_eq_append, ← List.append_assoc, ← List.append_assoc] at hslash
    obtain ⟨hbegun, hd⟩ := List.append_inj' hslash rfl
    have hended := hparts.ended
    rw [List.concat_eq_append, (List.cons.inj hd).1] at hended ⊢
    refine ⟨left, rfl, by rw [← hbegun, List.append_assoc], fun c hc => hended c ?_⟩
    rw [List.head?_append, hc]
    rfl

/-- A text without a slash at its end goes on behind what it leaves out there. -/
theorem begun_of_not_slash (h : input.toList.getLast? ≠ some '/') (hclean : clean input = head ++ (front ++ rest)) :
    begun (lessSlash input).toList = head ++ (front ++ (rest ++ trailing input)) := by
  rw [lessSlash, if_neg h, begun_eq, hclean, List.append_assoc, List.append_assoc]

theorem isSlash_of_head? (hleft : ∀ c ∈ left, endsPath c = false)
    (hended : ∀ c ∈ left.head?, endsAuthority scheme c) : ∀ c ∈ left.head?, isSlash scheme c := by
  intro c hc
  have hends := hended c hc
  have hnot := hleft c (List.mem_of_head? hc)
  simp only [endsPath, Bool.or_eq_false_iff, decide_eq_false_iff_not] at hnot
  simpa [endsAuthority, hnot] using hends

theorem text_path_hosted_append (hleft : ∀ c ∈ left, endsPath c = false)
    (hended : ∀ c ∈ left.head?, endsAuthority scheme c) (hpath : IsPlainPath path) :
    (hosted scheme a (left ++ path.toList)).path.text =
      (Path.segments (directories scheme left).reverse).text ++ path := by
  have hall : ∀ c ∈ left ++ path.toList, endsPath c = false := by
    intro c hc
    rcases List.mem_append.mp hc with hc | hc
    · exact hleft c hc
    · exact (counts_of_isPlain (hpath.plain c hc)).2.2
  rw [← text_readPathAfterHost_append (isSlash_of_head? hleft hended) hpath]
  simp only [hosted, cutPath_of_forall hall]

/-- The path of a target with a slash at its end, less that slash. -/
theorem lessSlash_path_of_slash (hrest : ∀ c ∈ left ++ ['/'], endsPath c = false)
    (hended : ∀ c ∈ left.head?, endsAuthority scheme c) :
    lessSlash (hosted scheme a (left ++ ['/'])).path.text = (Path.segments (directories scheme left).reverse).text := by
  have hleft : ∀ c ∈ left, endsPath c = false := fun c hc => hrest c (List.mem_append_left _ hc)
  rw [← lessSlash_append_slash (Path.segments (directories scheme left).reverse).text,
    ← text_path_hosted_append hleft hended isPlainPath_slash]
  rfl

/-- The address of a plain path leads to it on a target that ends plainly and has neither query nor fragment. -/
theorem exists_leadsTo (h : parse input = .ok target) (hhttp : target.isHttp) (hplain : EndsPlainly input)
    (hquery : target.query = none) (hfragment : target.fragment = none) (hpath : IsPlainPath path) :
    ∃ v, parse (probeAddress input path) = .ok v ∧ v.LeadsTo target path := by
  obtain ⟨head, front, rest, a, hclean, hopens, hparts⟩ := exists_parts_of_parse h hhttp
  have hrest : ∀ c ∈ rest, endsPath c = false := by
    rw [hparts.eq] at hquery hfragment
    exact hosted_end_iff.mp ⟨hquery, hfragment⟩
  have hleads {left : List Char} (hbegun : begun (lessSlash input).toList = head ++ (front ++ left))
      (hleft : ∀ c ∈ left, endsPath c = false) (hended : ∀ c ∈ left.head?, endsAuthority target.scheme c)
      (hless : lessSlash target.path.text = (Path.segments (directories target.scheme left).reverse).text) :
      ∃ v, parse (probeAddress input path) = .ok v ∧ v.LeadsTo target path := by
    refine ⟨_, parse_probeAddress hopens hparts hbegun hended hpath, rfl, ?_, ?_, ?_⟩
    · rw [hparts.eq]
      rfl
    · rw [hparts.eq]
      rfl
    · rw [text_path_hosted_append hleft hended hpath, hless]
  by_cases hslash : input.toList.getLast? = some '/'
  · obtain ⟨left, rfl, hbegun, hended⟩ := exists_left_of_slash hslash hclean hparts
    refine hleads hbegun (fun c hc => hrest c (List.mem_append_left _ hc)) hended ?_
    rw [hparts.eq]
    exact lessSlash_path_of_slash hrest hended
  · obtain ⟨htrailing, hlast⟩ := hplain.resolve_left hslash
    have hbegun := begun_of_not_slash hslash hclean
    rw [htrailing, List.append_nil] at hbegun
    refine hleads hbegun hrest hparts.ended ?_
    have hlast' : ∀ c ∈ rest.getLast?, ¬isSlash target.scheme c := by
      intro c hc
      have hne := hlast c (by rw [hclean, List.getLast?_append, List.getLast?_append, hc]; rfl)
      simp [isSlash, hne.1, hne.2]
    rw [← lessSlash_text_readPathAfterHost (isWeb_of_isHttp hhttp) (isSlash_of_head? hrest hparts.ended) hlast',
      hparts.eq]
    simp only [hosted, cutPath_of_forall hrest]

/-- On a target with a query or a fragment the address of a plain path has the path of the target. -/
theorem exists_path_eq (h : parse input = .ok target) (hhttp : target.isHttp)
    (hends : ¬(target.query = none ∧ target.fragment = none)) (hpath : IsPlainPath path) :
    ∃ v, parse (probeAddress input path) = .ok v ∧ v.path = target.path := by
  obtain ⟨head, front, rest, a, hclean, hopens, hparts⟩ := exists_parts_of_parse h hhttp
  rw [hparts.eq, hosted_end_iff] at hends
  have hsame {left : List Char} (hbegun : begun (lessSlash input).toList = head ++ (front ++ left))
      (hended : ∀ c ∈ left.head?, endsAuthority target.scheme c)
      (hcut : (cutPath (left ++ path.toList)).1 = (cutPath rest).1) :
      ∃ v, parse (probeAddress input path) = .ok v ∧ v.path = target.path := by
    refine ⟨_, parse_probeAddress hopens hparts hbegun hended hpath, ?_⟩
    rw [hparts.eq]
    simp only [hosted, hcut]
  by_cases hslash : input.toList.getLast? = some '/'
  · obtain ⟨left, rfl, hbegun, hended⟩ := exists_left_of_slash hslash hclean hparts
    have hleft : ¬∀ c ∈ left, endsPath c = false := by
      intro hleft
      refine hends fun c hc => ?_
      rcases List.mem_append.mp hc with hc | hc
      · exact hleft c hc
      · rw [List.mem_singleton.mp hc]
        rfl
    exact hsame hbegun hended (by rw [cutPath_append hleft, cutPath_append hleft])
  · refine hsame (begun_of_not_slash hslash hclean) ?_ (by rw [List.append_assoc, cutPath_append hends])
    cases rest with
    | nil => exact absurd (fun c hc => nomatch hc) hends
    | cons c rest => exact hparts.ended

/-- A path is no longer than a slash where less the slash at its end and with a plain path behind it it is the same. -/
theorem eq_slash_of_lessSlash_append {s : String} (hpath : IsPlainPath path) (h : s = lessSlash s ++ path) :
    path = "/" := by
  rw [← String.toList_inj, String.toList_append] at h
  unfold lessSlash at h
  split at h
  · rename_i hlast
    have hsplit := List.dropLast_append_getLast? '/' hlast
    rw [String.toList_ofList] at h
    exact String.toList_inj.mp (List.append_cancel_left (hsplit.trans h)).symm
  · obtain ⟨rest, hrest⟩ := hpath.exists_eq_cons
    rw [hrest] at h
    simp at h

theorem not_endsAuthority_of_trailing {c : Char} (h : c ∈ trailing input) (scheme : String) :
    endsAuthority scheme c = false := by
  have hc : c.toNat ≤ 0x20 := of_decide_eq_true (mem_trailing h).1
  have hne {d : Char} (hd : 0x20 < d.toNat) : c ≠ d := ne_of_blank hc hd
  simp [endsAuthority, isSlash, hne (d := '/'), hne (d := '\\'), hne (d := '?'), hne (d := '#')]

/-- A host with blanks behind it is no host, so that the address of a plain path is no URL. -/
theorem parse_probeAddress_ne_ok (hopens : Opens target.scheme head) (hparts : Parts target front [] a)
    (hbegun : begun (lessSlash input).toList = head ++ (front ++ trailing input)) (htrailing : trailing input ≠ [])
    (hpath : IsPlainPath path) (v : Url) : parse (probeAddress input path) ≠ .ok v := by
  intro hv
  have hclean : clean (probeAddress input path) = head ++ (front ++ trailing input ++ path.toList) := by
    rw [clean_probeAddress input hpath, hbegun, List.append_assoc]
  have hunended : ∀ c ∈ front ++ trailing input, endsAuthority target.scheme c = false := by
    intro c hc
    rcases List.mem_append.mp hc with hc | hc
    · exact hparts.unended c hc
    · exact not_endsAuthority_of_trailing hc _
  obtain ⟨a', hnames, -⟩ := (hopens _ _ _ hclean (by simp [htrailing]) hunended (hpath.ended _) v).mp hv
  rw [← List.dropLast_append_getLast htrailing, ← List.append_assoc] at hnames
  exact not_names_concat (of_decide_eq_true (mem_trailing (List.getLast_mem htrailing)).1) hnames

/-- A slash or blanks at the end of a target are in the way in front of a plain path. -/
theorem length_path_hosted_lt {c : Char} (hparts : Parts target front (c :: cs) a)
    (hrest : ∀ d ∈ c :: cs, endsPath d = false)
    (hlast : trailing input = [] → ∀ d ∈ (c :: cs).getLast?, isSlash target.scheme d) (hpath : IsPlainPath path) :
    (lessSlash target.path.text ++ path).length <
      (hosted target.scheme a (c :: cs ++ trailing input ++ path.toList)).path.text.length := by
  have hleft : ∀ d ∈ c :: cs ++ trailing input, endsPath d = false := by
    intro d hd
    rcases List.mem_append.mp hd with hd | hd
    · exact hrest d hd
    · have hnot := not_endsAuthority_of_trailing hd target.scheme
      simp only [endsAuthority, Bool.or_eq_false_iff] at hnot
      simp [endsPath, hnot]
  have hless := length_lessSlash_lt (isSlash_of_head? hrest hparts.ended c rfl)
    (fun d hd => of_decide_eq_true (mem_trailing hd).1) hlast
  rw [text_path_hosted_append hleft hparts.ended hpath, hparts.eq, String.length_append, String.length_append]
  simp only [hosted, cutPath_of_forall hrest]
  omega

/-- The address of a plain path does not lead to it on a target that does not end plainly. -/
theorem not_leadsTo_of_not_endsPlainly (h : parse input = .ok target) (hhttp : target.isHttp)
    (hplain : ¬EndsPlainly input) (hend : target.query = none ∧ target.fragment = none) (hpath : IsPlainPath path)
    {v : Url} (hv : parse (probeAddress input path) = .ok v) : ¬v.LeadsTo target path := by
  obtain ⟨head, front, rest, a, hclean, hopens, hparts⟩ := exists_parts_of_parse h hhttp
  obtain ⟨hslash, hnot⟩ := not_or.mp hplain
  have hbegun := begun_of_not_slash hslash hclean
  -- Directly behind the host only blanks are possible, further behind it both blanks and a slash.
  cases rest with
  | nil =>
    have htrailing : trailing input ≠ [] := by
      intro hnil
      refine hnot ⟨hnil, fun c hc => ?_⟩
      rw [hclean, List.append_nil, List.getLast?_append, List.getLast?_eq_some_getLast hparts.names.ne_nil,
        Option.some_or] at hc
      exact ne_slash_of_not_endsAuthority (isWeb_of_isHttp hhttp)
        (hparts.unended c (Option.some.inj hc ▸ List.getLast_mem _))
    exact absurd hv (parse_probeAddress_ne_ok hopens hparts hbegun htrailing hpath v)
  | cons c cs =>
    have hrest : ∀ d ∈ c :: cs, endsPath d = false := by
      rw [hparts.eq] at hend
      exact hosted_end_iff.mp hend
    have hlast : trailing input = [] → ∀ d ∈ (c :: cs).getLast?, isSlash target.scheme d := by
      intro hnil d hd
      refine Classical.byContradiction fun hopen => hnot ⟨hnil, fun e he => ?_⟩
      rw [hclean, List.getLast?_append, List.getLast?_append, hd, Option.some_or, Option.some_or] at he
      obtain rfl := Option.some.inj he
      constructor <;> rintro rfl <;> simp [isSlash, isWeb_of_isHttp hhttp] at hopen
    obtain rfl := Except.ok.inj (hv.symm.trans (parse_probeAddress hopens hparts hbegun hparts.ended hpath))
    intro hleads
    have hlengths := congrArg String.length hleads.path
    exact absurd hlengths (length_path_hosted_lt hparts hrest hlast hpath).ne'

/-- The address of any plain path but a slash leads to it if and only if the target ends plainly and has neither query
nor fragment. -/
theorem exists_leadsTo_iff (h : parse input = .ok target) (hhttp : target.isHttp) (hpath : IsPlainPath path)
    (hroot : path ≠ "/") : (∃ v, parse (probeAddress input path) = .ok v ∧ v.LeadsTo target path) ↔
      EndsPlainly input ∧ target.query = none ∧ target.fragment = none := by
  constructor
  · rintro ⟨v, hv, hleads⟩
    have hend : target.query = none ∧ target.fragment = none := by
      refine Classical.byContradiction fun hend => hroot ?_
      obtain ⟨v', hv', hsame⟩ := exists_path_eq h hhttp hend hpath
      obtain rfl := Except.ok.inj (hv.symm.trans hv')
      exact eq_slash_of_lessSlash_append hpath (hsame ▸ hleads.path)
    refine ⟨Classical.byContradiction fun hplain => ?_, hend⟩
    exact not_leadsTo_of_not_endsPlainly h hhttp hplain hend hpath hv hleads
  · rintro ⟨hplain, hquery, hfragment⟩
    exact exists_leadsTo h hhttp hplain hquery hfragment hpath

end SiteProbe.Url

/-! ## Runs -/

namespace SiteProbe.Detector

open Url

variable {σ : Type}

/-- The calls of a detection are rounds for its groups, at the addresses of their paths. If such a path is plain, the
address leads to it on a target that ends plainly and has neither query nor fragment, and unless the path is a slash, on
no other target. -/
theorem detect_addresses (d : Detector) (w : World (StateM σ)) (augmenter : Option (Augmenter (StateM σ)))
    {url : String} {target : Url} (hurl : parse url = .ok target) (hhttp : target.isHttp) (s : σ) :
    ∃ f rounds skipped s', ((d.detect w.noting (augmenter.map Augmenter.silently) url).run []).run s =
        ((.ok f, rounds.flatMap Round.calls), s') ∧ d.IsCourse url d.store.groups rounds skipped ∧
      ∀ r ∈ rounds, IsPlainPath r.group.path → ∀ c ∈ r.calls,
        (EndsPlainly url → target.query = none → target.fragment = none →
          ∃ v, parse c.url = .ok v ∧ v.LeadsTo target r.group.path) ∧
        (r.group.path ≠ "/" → (∃ v, parse c.url = .ok v ∧ v.LeadsTo target r.group.path) →
          EndsPlainly url ∧ target.query = none ∧ target.fragment = none) := by
  obtain ⟨f, rounds, skipped, s', hrun, hcourse, -, -⟩ := runs_detect d w augmenter hurl hhttp s
  refine ⟨f, rounds, skipped, s', hrun.run_nil, hcourse, fun r hr hpath c hc => ?_⟩
  obtain ⟨haddress, -⟩ := (hcourse.round r hr).same c hc
  rw [haddress]
  exact ⟨fun hplain hquery hfragment => exists_leadsTo hurl hhttp hplain hquery hfragment hpath,
    fun hroot => (exists_leadsTo_iff hurl hhttp hpath hroot).mp⟩

/-- Both paths of this detector are plain, and its calls lead to them. -/
theorem detect_addresses_twoPaths : ∃ (f : Findings) (rounds : List Round) (s' : Nat),
    ((twoPaths.detect lateWorld.noting none "http://a.test/").run []).run 1 =
        ((.ok f, rounds.flatMap Round.calls), s') ∧
      (rounds.flatMap Round.calls).map (·.url) = ["http://a.test/", "http://a.test/v"] ∧
        ∀ r ∈ rounds, ∀ c ∈ r.calls, ∃ v, parse c.url = .ok v ∧ v.LeadsTo sampleRoot r.group.path := by
  obtain ⟨f, rounds, skipped, s', hrun, hcourse, hrounds⟩ :=
    detect_addresses twoPaths lateWorld none parse_sampleRoot (by decide) 1
  have hurls : (((twoPaths.detect lateWorld.noting none "http://a.test/").run []).run 1).1.2.map (·.url) =
      ["http://a.test/", "http://a.test/v"] := by
    decide +kernel
  have hpaths : ∀ g ∈ twoPaths.store.groups, IsPlainPath g.path := by decide +kernel
  rw [Option.map_none] at hrun
  rw [hrun] at hurls
  refine ⟨f, rounds, s', hrun, hurls, fun r hr c hc => ?_⟩
  have hgroup : r.group ∈ twoPaths.store.groups := by
    rw [hcourse.groups]
    exact List.mem_append_left _ (List.mem_map_of_mem hr)
  exact (hrounds r hr (hpaths r.group hgroup) c hc).1 (.inl (by decide)) rfl rfl

/-- Behind a query, the path of a probe becomes part of the query. -/
theorem detect_addresses_query : ∃ f calls s' target,
    ((twoPaths.detect lateWorld.noting none "http://a.test/?q=1").run []).run 1 = ((.ok f, calls), s') ∧
      parse "http://a.test/?q=1" = .ok target ∧ target.isHttp ∧ IsPlainPath "/v" ∧
        ∃ c ∈ calls, c.url = probeAddress "http://a.test/?q=1" "/v" ∧
          ¬∃ v, parse c.url = .ok v ∧ v.LeadsTo target "/v" := by
  have hurls : (((twoPaths.detect lateWorld.noting none "http://a.test/?q=1").run []).run 1).1.2.map (·.url) =
      ["http://a.test/?q=1/", "http://a.test/?q=1/v"] := by
    decide +kernel
  have htarget : parse "http://a.test/?q=1" = .ok { sampleRoot with query := some "q=1" } :=
    eq_ok_of_toOption (by decide +kernel)
  have hparse : parse "http://a.test/?q=1/v" = .ok { sampleRoot with query := some "q=1/v" } :=
    eq_ok_of_toOption (by decide +kernel)
  obtain ⟨f, rounds, -, s', hruns, -⟩ := runs_detect twoPaths lateWorld none htarget (by decide) 1
  have hrun := hruns.run_nil
  rw [Option.map_none] at hrun
  rw [hrun] at hurls
  have hmem : "http://a.test/?q=1/v" ∈ (rounds.flatMap Round.calls).map (·.url) := by
    rw [hurls]
    exact .tail _ List.mem_cons_self
  obtain ⟨c, hc, hurl⟩ := List.mem_map.mp hmem
  refine ⟨f, _, s', _, hrun, htarget, by decide, by decide, c, hc, hurl, ?_⟩
  rintro ⟨v, hv, hleads⟩
  rw [hurl] at hv
  obtain rfl := Except.ok.inj (hparse.symm.trans hv)
  exact absurd hleads.path (by decide)

end SiteProbe.Detector
