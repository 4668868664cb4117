import Mathlib.Data.List.Infix
import Mathlib.Order.WellFounded
import SiteProbe.Query.Pattern

/-!
# Version markers

A pattern is cut at its first version marker with a backslash, or else at the first one without. If the first marker of
all has no backslash but a later one has one (`Pattern.IsMixed`), then a marker is left in the part that is compiled;
otherwise that part is what stands before the first marker, and there is none in it (`Pattern.splitMarker_isHead`).
-/

namespace SiteProbe

/-! ## Cuts -/

namespace Text

variable {separator cs head : List Char}

/-- What stands in a text before the first place of a separator. -/
structure IsBefore (separator cs head : List Char) : Prop where
  here : head ++ separator <+: cs
  first : ∀ front, front ++ separator <+: cs → head.length ≤ front.length

/-- A cut is made at the first place. -/
theorem length_le_of_cut? {behind front : List Char} (h : cut? separator cs = some (head, behind))
    (hfront : front ++ separator <+: cs) : head.length ≤ front.length := by
  induction cs generalizing head front with
  | nil =>
    simp only [cut?] at h
    split at h
    · cases h
      exact Nat.zero_le _
    · cases h
  | cons c rest ih =>
    simp only [cut?] at h
    split at h
    · cases h
      exact Nat.zero_le _
    · rename_i hprefix
      obtain ⟨⟨before, behind'⟩, hcut, heq⟩ := Option.map_eq_some_iff.mp h
      cases heq
      cases front with
      | nil => exact absurd (List.isPrefixOf_iff_prefix.mpr hfront) hprefix
      | cons d front =>
        have hrest : front ++ separator <+: rest := (List.cons_prefix_cons.mp hfront).2
        exact Nat.succ_le_succ (ih hcut hrest)

theorem isBefore_of_cut? {behind : List Char} (h : cut? separator cs = some (head, behind)) :
    IsBefore separator cs head where
  here := ⟨behind, (eq_of_cut?_eq_some h).symm⟩
  first _ hfront := length_le_of_cut? h hfront

theorem cut?_eq_none_iff : cut? separator cs = none ↔ ¬separator <:+: cs := by
  induction cs with
  | nil => simp [cut?]
  | cons c rest ih =>
    rw [List.infix_cons_iff, not_or, ← ih, ← List.isPrefixOf_iff_prefix, cut?]
    split <;> simp_all

/-- What a text goes on with stands in it. -/
theorem infix_of_append {front : List Char} (h : front ++ separator <+: cs) : separator <:+: cs :=
  (List.suffix_append front separator).isInfix.trans h.isInfix

theorem IsBefore.starts (h : IsBefore separator cs head) : head <+: cs :=
  (List.prefix_append head separator).trans h.here

/-- There is no separator before the first one. -/
theorem IsBefore.not_infix (h : IsBefore separator cs head) (hne : separator ≠ []) : ¬separator <:+: head := by
  rintro ⟨front, behind, rfl⟩
  have hfront : front ++ separator <+: cs := (List.prefix_append _ behind).trans h.starts
  have hle := h.first front hfront
  have hpos := List.length_pos_of_ne_nil hne
  simp only [List.length_append] at hle
  omega

/-- What starts before a character that it does not have ends before it. -/
theorem prefix_of_notMem {c : Char} {front rest : List Char} (hc : c ∉ separator)
    (h : front ++ separator <+: head ++ c :: rest) (hle : front.length ≤ head.length) :
    front ++ separator <+: head := by
  obtain ⟨behind, hbehind⟩ := h
  have hlength : (front ++ separator).length ≤ head.length := by
    refine Nat.le_of_not_lt fun hlt => hc ?_
    have hat : (front ++ separator)[head.length]? = some c := by
      calc (front ++ separator)[head.length]?
          = (front ++ separator ++ behind)[head.length]? := (List.getElem?_append_left hlt).symm
        _ = (head ++ c :: rest)[head.length]? := by rw [hbehind]
        _ = some c := by simp
    rw [List.getElem?_append_right hle] at hat
    exact List.mem_of_getElem? hat
  exact List.prefix_of_prefix_length_le ⟨behind, hbehind⟩ (List.prefix_append head _) hlength

end Text

open Text

namespace Pattern

variable {cs head head' : List Char} {raw : String}

/-- The marker without a backslash. -/
def bare : List Char := ";version:".toList

/-- The marker with a backslash. -/
def escaped : List Char := '\\' :: bare

/-- A marker, in either spelling, stands behind the front of a text. -/
def IsMarked (cs front : List Char) : Prop := front ++ escaped <+: cs ∨ front ++ bare <+: cs

/-- What stands in a text before its first marker, in whichever spelling. -/
structure IsHead (cs head : List Char) : Prop where
  marked : IsMarked cs head
  first : ∀ front, IsMarked cs front → head.length ≤ front.length

/-- The first marker of a text has no backslash, but some other marker has one. -/
def IsMixed (cs : List Char) : Prop := ∃ head, IsHead cs head ∧ ¬head ++ escaped <+: cs ∧ escaped <:+: cs

theorem bare_ne_nil : bare ≠ [] := by decide

theorem backslash_notMem_bare : '\\' ∉ bare := by decide

/-- A marker with a backslash has one without it in it. -/
theorem bare_infix_escaped : bare <:+: escaped := (List.suffix_cons _ bare).isInfix

theorem IsMarked.starts {front : List Char} (h : IsMarked cs front) : front <+: cs := by
  rcases h with h | h <;> exact (List.prefix_append _ _).trans h

theorem infix_of_isMarked {front : List Char} (h : IsMarked cs front) : bare <:+: cs := by
  rcases h with h | h
  · exact bare_infix_escaped.trans (infix_of_append h)
  · exact infix_of_append h

/-- A text with a marker has a first one. -/
theorem exists_isHead (h : bare <:+: cs) : ∃ head, IsHead cs head := by
  obtain ⟨front, behind, rfl⟩ := h
  have hfront : IsMarked (front ++ bare ++ behind) front := .inr (List.prefix_append _ behind)
  obtain ⟨head, hhead, hfirst⟩ := WellFounded.has_min (measure List.length).wf
    {front' | IsMarked (front ++ bare ++ behind) front'} ⟨front, hfront⟩
  exact ⟨head, hhead, fun front' hfront' => Nat.le_of_not_lt (hfirst front' hfront')⟩

/-- A text has one first marker at most. -/
theorem IsHead.unique (h : IsHead cs head) (h' : IsHead cs head') : head = head' := by
  have hlength : head.length = head'.length := by
    have hle := h.first head' h'.marked
    have hle' := h'.first head h.marked
    omega
  exact (List.prefix_of_prefix_length_le h.marked.starts h'.marked.starts hlength.le).eq_of_length hlength

/-! ## Where a pattern is cut -/

/-- A pattern is cut at its first marker with a backslash, or else at its first marker, or it has none. -/
theorem splitMarker_cases (raw : String) :
    (∃ head, splitMarker raw = (String.ofList head, true) ∧ IsBefore escaped raw.toList head) ∨
    (∃ head, splitMarker raw = (String.ofList head, true) ∧ IsBefore bare raw.toList head ∧
      ¬escaped <:+: raw.toList) ∨
    (splitMarker raw = (raw, false) ∧ ¬bare <:+: raw.toList) := by
  have hfind : (markers.findSome? fun m => cut? m.toList raw.toList) =
      (cut? escaped raw.toList).or (cut? bare raw.toList) := by
    have hescaped : "\\;version:".toList = escaped := by decide
    have hbare : ";version:".toList = bare := rfl
    rw [markers, List.findSome?_cons, List.findSome?_cons, List.findSome?_nil, hescaped, hbare]
    generalize cut? escaped raw.toList = found, cut? bare raw.toList = found'
    cases found <;> cases found' <;> rfl
  rw [splitMarker, hfind]
  cases hescaped : cut? escaped raw.toList with
  | some cut => exact .inl ⟨cut.1, rfl, isBefore_of_cut? hescaped⟩
  | none =>
    rw [Option.none_or]
    cases hbare : cut? bare raw.toList with
    | some cut => exact .inr (.inl ⟨cut.1, rfl, isBefore_of_cut? hbare, cut?_eq_none_iff.mp hescaped⟩)
    | none => exact .inr (.inr ⟨rfl, cut?_eq_none_iff.mp hbare⟩)

theorem splitMarker_of_not_infix (h : ¬bare <:+: raw.toList) : splitMarker raw = (raw, false) := by
  rcases splitMarker_cases raw with ⟨head, -, hbefore⟩ | ⟨head, -, hbefore, -⟩ | ⟨hsplit, -⟩
  · exact absurd (infix_of_isMarked (.inl hbefore.here)) h
  · exact absurd (infix_of_isMarked (.inr hbefore.here)) h
  · exact hsplit

/-- A pattern is said to have a marker if and only if it has one, in whichever spelling. -/
theorem hasMarker_iff (raw : String) : (splitMarker raw).2 = true ↔ bare <:+: raw.toList := by
  rcases splitMarker_cases raw with ⟨head, hsplit, hbefore⟩ | ⟨head, hsplit, hbefore, -⟩ | ⟨hsplit, hnot⟩
  · exact iff_of_true (by rw [hsplit]) (infix_of_isMarked (.inl hbefore.here))
  · exact iff_of_true (by rw [hsplit]) (infix_of_isMarked (.inr hbefore.here))
  · exact iff_of_false (by simp [hsplit]) hnot

/-- Before the first marker with a backslash there is one without if and only if the first marker of all is such a
one. -/
theorem bare_infix_iff (h : IsBefore escaped cs head) : bare <:+: head ↔ IsMixed cs := by
  constructor
  · intro hbare
    obtain ⟨front, behind, rfl⟩ := hbare
    have hfront : IsMarked cs front := .inr ((List.prefix_append _ behind).trans h.starts)
    obtain ⟨first, hfirst⟩ := exists_isHead (infix_of_isMarked hfront)
    refine ⟨first, hfirst, fun hescaped => ?_, infix_of_append h.here⟩
    have hle := hfirst.first front hfront
    have hle' := h.first first hescaped
    have hpos := List.length_pos_of_ne_nil bare_ne_nil
    simp only [List.length_append] at hle'
    omega
  · rintro ⟨first, hfirst, hnot, -⟩
    have hbare : first ++ bare <+: cs := hfirst.marked.resolve_left hnot
    have hle : first.length ≤ head.length := hfirst.first head (.inl h.here)
    obtain ⟨behind, hbehind⟩ := h.here
    -- the marker without a backslash cannot reach into the one with it
    have hprefix : first ++ bare <+: head ++ '\\' :: (bare ++ behind) := by
      rw [← hbehind, escaped, List.append_assoc] at hbare
      exact hbare
    exact infix_of_append (prefix_of_notMem backslash_notMem_bare hprefix hle)

/-- A marker is left in the part before the cut if and only if the first marker has no backslash and a later one has
one. -/
theorem bare_infix_splitMarker_iff (raw : String) : bare <:+: (splitMarker raw).1.toList ↔ IsMixed raw.toList := by
  rcases splitMarker_cases raw with ⟨head, hsplit, hbefore⟩ | ⟨head, hsplit, hbefore, hnot⟩ | ⟨hsplit, hnot⟩
  · rw [hsplit, String.toList_ofList]
    exact bare_infix_iff hbefore
  · rw [hsplit, String.toList_ofList]
    exact iff_of_false (hbefore.not_infix bare_ne_nil) fun ⟨_, _, _, hescaped⟩ => hnot hescaped
  · rw [hsplit]
    exact iff_of_false hnot fun ⟨_, hhead, _⟩ => hnot (infix_of_isMarked hhead.marked)

/-- Unless its markers are mixed, a pattern that has a marker is cut at the first one. -/
theorem isHead_splitMarker (hmixed : ¬IsMixed raw.toList) (h : (splitMarker raw).2 = true) :
    IsHead raw.toList (splitMarker raw).1.toList := by
  rcases splitMarker_cases raw with ⟨head, hsplit, hbefore⟩ | ⟨head, hsplit, hbefore, hnot⟩ | ⟨hsplit, -⟩
  · rw [hsplit, String.toList_ofList]
    obtain ⟨first, hfirst⟩ := exists_isHead (infix_of_isMarked (.inl hbefore.here))
    have hescaped : first ++ escaped <+: raw.toList := by
      apply Classical.byContradiction
      intro hescaped
      exact hmixed ⟨first, hfirst, hescaped, infix_of_append hbefore.here⟩
    have hle : head.length ≤ first.length := hbefore.first first hescaped
    exact ⟨.inl hbefore.here, fun front hfront => hle.trans (hfirst.first front hfront)⟩
  · rw [hsplit, String.toList_ofList]
    refine ⟨.inr hbefore.here, fun front hfront => ?_⟩
    apply hbefore.first
    apply hfront.resolve_left
    intro hescaped
    exact hnot (infix_of_append hescaped)
  · rw [hsplit] at h
    cases h

/-- There is no marker before the first one. -/
theorem IsHead.not_infix (h : IsHead cs head) : ¬bare <:+: head := by
  rintro ⟨front, behind, rfl⟩
  have hmarked : front ++ bare <+: cs := (List.prefix_append _ behind).trans h.marked.starts
  have hle := h.first front (.inr hmarked)
  have hpos := List.length_pos_of_ne_nil bare_ne_nil
  simp only [List.length_append] at hle
  omega

/-- Unless the markers of a pattern are mixed, what stands before the first one compiles to the same. -/
theorem regex_compile_head {head : String} (hmixed : ¬IsMixed raw.toList) (h : IsHead raw.toList head.toList) :
    (compile head).regex = (compile raw).regex := by
  have hmarker : (splitMarker raw).2 = true := (hasMarker_iff raw).mpr (infix_of_isMarked h.marked)
  have hcut : head = (splitMarker raw).1 := String.toList_inj.mp (h.unique (isHead_splitMarker hmixed hmarker))
  have hhead : splitMarker head = (head, false) := splitMarker_of_not_infix h.not_infix
  show Regex.compile? (splitMarker head).1 = Regex.compile? (splitMarker raw).1
  rw [hhead, ← hcut]

/-- For every pattern: it is said to have a marker if and only if one occurs in it, and without a marker it is kept
whole. Unless its first marker has no backslash and a later one has one, the part that is compiled is what stands before
the first marker; no marker is in it, and to split it again gives it back. Otherwise it is what stands before the first
marker with a backslash, and there is a marker in it. -/
theorem splitMarker_isHead (raw : String) :
    ((splitMarker raw).2 = true ↔ bare <:+: raw.toList) ∧
    ((splitMarker raw).2 = false → (splitMarker raw).1 = raw) ∧
    (compile raw).regex = Regex.compile? (splitMarker raw).1 ∧
    (¬IsMixed raw.toList →
      ((splitMarker raw).2 = true → IsHead raw.toList (splitMarker raw).1.toList) ∧
      ¬bare <:+: (splitMarker raw).1.toList ∧
      splitMarker (splitMarker raw).1 = ((splitMarker raw).1, false)) ∧
    (IsMixed raw.toList →
      IsBefore escaped raw.toList (splitMarker raw).1.toList ∧
      bare <:+: (splitMarker raw).1.toList ∧
      ¬IsHead raw.toList (splitMarker raw).1.toList ∧
      (splitMarker (splitMarker raw).1).2 = true) := by
  refine ⟨hasMarker_iff raw, fun hnone => ?_, rfl, fun hmixed => ?_, fun hmixed => ?_⟩
  · rcases splitMarker_cases raw with ⟨head, hsplit, -⟩ | ⟨head, hsplit, -⟩ | ⟨hsplit, -⟩
    · rw [hsplit] at hnone
      cases hnone
    · rw [hsplit] at hnone
      cases hnone
    · rw [hsplit]
  · have hnot : ¬bare <:+: (splitMarker raw).1.toList := mt (bare_infix_splitMarker_iff raw).mp hmixed
    exact ⟨isHead_splitMarker hmixed, hnot, splitMarker_of_not_infix hnot⟩
  · have hbare := (bare_infix_splitMarker_iff raw).mpr hmixed
    refine ⟨?_, hbare, fun hhead => hhead.not_infix hbare, (hasMarker_iff _).mpr hbare⟩
    obtain ⟨-, -, -, hescaped⟩ := hmixed
    rcases splitMarker_cases raw with ⟨head, hsplit, hbefore⟩ | ⟨head, -, -, hnot⟩ | ⟨-, hnot⟩
    · rw [hsplit, String.toList_ofList]
      exact hbefore
    · exact absurd hescaped hnot
    · exact absurd (bare_infix_escaped.trans hescaped) hnot

/-- Of two markers the first one has a backslash, so that the pattern is cut there. -/
theorem splitMarker_isHead_twoMarkers :
    ¬IsMixed "v(1+)\\;version:\\1;version:2".toList ∧
    IsHead "v(1+)\\;version:\\1;version:2".toList "v(1+)".toList ∧
    splitMarker "v(1+)" = ("v(1+)", false) := by
  have hsplit : splitMarker "v(1+)\\;version:\\1;version:2" = ("v(1+)", true) := by decide
  have hmixed : ¬IsMixed "v(1+)\\;version:\\1;version:2".toList := by
    rw [← bare_infix_splitMarker_iff, hsplit]
    decide
  obtain ⟨-, -, -, hcut, -⟩ := splitMarker_isHead "v(1+)\\;version:\\1;version:2"
  obtain ⟨hhead, -, hagain⟩ := hcut hmixed
  rw [hsplit] at hhead hagain
  exact ⟨hmixed, hhead rfl, hagain⟩

/-- Of two markers the second one has a backslash, so that the pattern is cut there, and the first one is left. -/
theorem splitMarker_mixed :
    IsHead "a;version:b\\;version:c".toList "a".toList ∧
    splitMarker "a;version:b\\;version:c" = ("a;version:b", true) ∧
    splitMarker "a;version:b" = ("a", true) := by
  refine ⟨⟨.inr (by decide), fun front hfront => ?_⟩, by decide, by decide⟩
  cases front with
  | nil => exact absurd hfront (by unfold IsMarked; decide)
  | cons c rest => exact Nat.succ_pos _

end Pattern
end SiteProbe
