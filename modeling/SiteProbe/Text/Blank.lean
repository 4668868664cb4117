/-!
# Blanks

The characters that count as white space, and what is left of a text when it is trimmed: it neither starts nor ends with
a blank (`head?_trimChars`, `getLast?_trimChars`), and a text of that kind stays as it is (`trimChars_eq_self`).
-/

namespace SiteProbe.Text

/-- Whether a character is white space. -/
def isBlank (c : Char) : Bool :=
  let n := c.toNat
  (9 ≤ n && n ≤ 13) || n = 0x20 || n = 0x85 || n = 0xA0 || n = 0x1680 || (0x2000 ≤ n && n ≤ 0x200A) ||
    n = 0x2028 || n = 0x2029 || n = 0x202F || n = 0x205F || n = 0x3000

/-- Leave out the blanks at the end. -/
def trimEndChars : List Char → List Char
  | [] => []
  | c :: rest =>
    match trimEndChars rest with
    | [] => if isBlank c then [] else [c]
    | d :: rest => c :: d :: rest

/-- Leave out the blanks at both ends. -/
def trimChars (cs : List Char) : List Char := trimEndChars (cs.dropWhile isBlank)

/-- Leave out the blanks at both ends of a text. -/
def trim (s : String) : String := String.ofList (trimChars s.toList)

/-- Trimming the end leaves out blanks only. -/
theorem trimEndChars_append (cs : List Char) : ∃ bs, cs = trimEndChars cs ++ bs ∧ ∀ b ∈ bs, isBlank b := by
  induction cs with
  | nil => exact ⟨[], by simp [trimEndChars]⟩
  | cons c rest ih =>
    obtain ⟨bs, hrest, hbs⟩ := ih
    unfold trimEndChars
    split
    · rename_i hnil
      rw [hnil] at hrest
      split
      · rename_i hc
        refine ⟨c :: bs, by simpa using hrest, ?_⟩
        intro b hb
        rcases List.mem_cons.mp hb with rfl | hb
        · exact hc
        · exact hbs b hb
      · exact ⟨bs, by simpa using hrest, hbs⟩
    · rename_i d rest' heq
      rw [heq] at hrest
      exact ⟨bs, by simpa using hrest, hbs⟩

/-- What is left ends with no blank. -/
theorem getLast?_trimEndChars (cs : List Char) : ∀ c ∈ (trimEndChars cs).getLast?, isBlank c = false := by
  induction cs with
  | nil => simp [trimEndChars]
  | cons c rest ih =>
    unfold trimEndChars
    split
    · split
      · simp
      · rename_i hc
        simpa using hc
    · rename_i d rest' heq
      rw [heq] at ih
      simpa [List.getLast?_cons_cons] using ih

theorem toList_trim (s : String) : (trim s).toList = trimChars s.toList := String.toList_ofList

/-- What is left starts with no blank. -/
theorem head?_trimChars (cs : List Char) : ∀ c ∈ (trimChars cs).head?, isBlank c = false := by
  intro c hc
  obtain ⟨bs, h, -⟩ := trimEndChars_append (cs.dropWhile isBlank)
  have hfirst : (cs.dropWhile isBlank).head? = some c := by
    rw [h, List.head?_append, ← trimChars, Option.mem_def.mp hc, Option.some_or]
  have hnot := List.head?_dropWhile_not isBlank cs
  rwa [hfirst] at hnot

theorem getLast?_trimChars (cs : List Char) : ∀ c ∈ (trimChars cs).getLast?, isBlank c = false :=
  getLast?_trimEndChars _

/-- Trimming leaves a text as it is that neither starts nor ends with a blank. -/
theorem trimChars_eq_self {cs : List Char} (hfirst : ∀ c ∈ cs.head?, isBlank c = false)
    (hlast : ∀ c ∈ cs.getLast?, isBlank c = false) : trimChars cs = cs := by
  have hdrop : cs.dropWhile isBlank = cs := by
    cases cs with
    | nil => rfl
    | cons c rest => exact List.dropWhile_cons_of_neg (by simp [hfirst c rfl])
  obtain ⟨bs, h, hbs⟩ := trimEndChars_append cs
  have hnone : bs = [] := by
    refine List.eq_nil_iff_forall_not_mem.mpr fun b hb => ?_
    have hne : bs ≠ [] := List.ne_nil_of_mem hb
    have hgetLast : cs.getLast? = some (bs.getLast hne) := by
      rw [h, List.getLast?_append, List.getLast?_eq_some_getLast hne, Option.some_or]
    have hblank := hbs (bs.getLast hne) (List.getLast_mem hne)
    rw [hlast _ hgetLast] at hblank
    cases hblank
  rw [trimChars, hdrop]
  rw [hnone, List.append_nil] at h
  exact h.symm

theorem trim_trim (s : String) : trim (trim s) = trim s := by
  unfold trim
  rw [String.toList_ofList, trimChars_eq_self (head?_trimChars _) (getLast?_trimChars _)]

end SiteProbe.Text
