import SiteProbe.Unicode.Case

/-!
# Small letters of ASCII texts

A text of ASCII characters has the small form that its letters have one by one (`Unicode.Case.lower_eq_toLower`).
-/

namespace SiteProbe.Unicode

/-- What holds of the first characters can be decided by their numbers. -/
theorem forall_of_toNat_lt {P : Char → Prop} {bound : Nat} (h : ∀ n < bound, P (Char.ofNat n)) :
    ∀ c : Char, c.toNat < bound → P c := by
  intro c hc
  have hp := h c.toNat hc
  rwa [Char.ofNat_toNat] at hp

theorem toNat_lt_of_isAlphanum {c : Char} (h : c.isAlphanum) : c.toNat < 128 := by
  have hlast : c.val.toNat ≤ 122 := by
    rcases (Bool.or_eq_true _ _).mp h with halpha | hdigit
    · rcases (Bool.or_eq_true _ _).mp halpha with hupper | hlower
      · have hle : c.val.toNat ≤ 90 := (of_decide_eq_true hupper).2
        omega
      · exact of_decide_eq_true ((Bool.and_eq_true _ _).mp hlower).2
    · have hle : c.val.toNat ≤ 57 := of_decide_eq_true ((Bool.and_eq_true _ _).mp hdigit).2
      omega
  exact Nat.lt_of_le_of_lt hlast (by decide)

namespace CodeMap

theorem readRuns_eq (rows : List String) : readRuns rows = rows.flatMap fun row =>
    ((row.toList.foldl RunReader.step ⟨0, none, 0, []⟩).step ' ').done.reverse := by
  unfold readRuns
  simp only [String.foldl_eq_foldl_toList]

/-- Runs that start behind a code point have no image of it. -/
theorem image?_filter (runs : List Run) {n bound : Nat} (h : n < bound) :
    image? (runs.filter fun r => r.low < bound) n = image? runs n := by
  induction runs with
  | nil => rfl
  | cons r rest ih =>
    unfold image? at ih ⊢
    by_cases hlow : r.low < bound
    · rw [List.filter_cons_of_pos (by simpa using hlow), List.findSome?_cons, List.findSome?_cons, ih]
    · have hnone : r.image? n = none := if_neg (by simp; omega)
      rw [List.filter_cons_of_neg (by simpa using hlow), List.findSome?_cons, hnone, ih]

end CodeMap

namespace Case

/-- The run of the capital letters from A to Z. -/
def asciiRun : CodeMap.Run := ⟨0x41, 0x5A, 1, 0x61⟩

/-- No other run of capital letters starts among the ASCII characters. -/
theorem filter_small : (small.filter fun r => r.low < 128) = [asciiRun] := by
  have hfields : (small.filter fun r => r.low < 128).map (fun r => (r.low, r.high, r.step, r.target)) =
      [(0x41, 0x5A, 1, 0x61)] := by
    simp only [small, CodeMap.readRuns_eq, List.flatMap_cons, List.flatMap_nil]
    -- to take the literals apart here is quicker than to have them decoded
    repeat rw [String.toList_ofList]
    decide +kernel
  obtain ⟨⟨low, high, step, target⟩, hfilter, hrun⟩ := List.map_eq_singleton_iff.mp hfields
  cases hrun
  exact hfilter

theorem form_ascii {c : Char} (h : c.toNat < 128) : form small smallLonger c = [c.toLower] := by
  have hrun : form small smallLonger c = form [asciiRun] smallLonger c := by
    unfold form
    rw [← CodeMap.image?_filter small h, filter_small]
  have hall : ∀ c : Char, c.toNat < 128 → form [asciiRun] smallLonger c = [c.toLower] :=
    forall_of_toNat_lt (by decide +kernel)
  rw [hrun, hall c h]

theorem lowerAfter_ascii (before : List Char) {cs : List Char} (h : cs.all fun c => c.toNat < 128) :
    lowerAfter before cs = cs.map Char.toLower := by
  induction cs generalizing before with
  | nil => rfl
  | cons c rest ih =>
    simp only [List.all_cons, Bool.and_eq_true, decide_eq_true_eq] at h
    have hsigma : c ≠ 'Σ' := by
      rintro rfl
      exact absurd h.1 (by decide)
    rw [lowerAfter, if_neg hsigma, form_ascii h.1, ih _ h.2, List.map_cons, List.singleton_append]

theorem toList_lower {s : String} (h : s.toList.all fun c => c.toNat < 128) :
    (lower s).toList = s.toList.map Char.toLower := by
  rw [lower, lowerAfter_ascii [] h, String.toList_ofList]

theorem lower_eq_toLower {s : String} (h : s.toList.all fun c => c.toNat < 128) : lower s = s.toLower := by
  rw [← String.toList_inj, toList_lower h]
  exact String.toList_map.symm

end Case
end SiteProbe.Unicode
