import Mathlib.Data.List.Basic
import Mathlib.Data.List.Induction
import SiteProbe.CommandLine

/-!
# Targets of lines

A line names a target if it is neither empty nor a comment once it is trimmed (`Target.IsTarget`). What is collected
from lines is determined by this: the targets that are named, each once, in the order in which they are first named
(`Target.collect_eq_iff`). So nothing changes if what was collected is collected again (`Target.collect_collect`), and
more lines put behind the targets the new ones among theirs (`Target.collect_append`).
-/

namespace SiteProbe

/-! ## First occurrences -/

section FirstOccurrences

variable {α : Type} [DecidableEq α]

theorem eraseDups_concat (as : List α) (b : α) :
    (as ++ [b]).eraseDups = if b ∈ as then as.eraseDups else as.eraseDups ++ [b] := by
  rw [List.eraseDups_append]
  split
  · rename_i h
    simp [List.removeAll, h]
  · rename_i h
    simp [List.removeAll, h, List.eraseDups_cons]

/-- It makes no difference whether elements are left out before or after repetitions are. -/
theorem eraseDups_filter (p : α → Bool) (as : List α) : (as.filter p).eraseDups = as.eraseDups.filter p := by
  induction as using List.reverseRecOn with
  | nil => rfl
  | append_singleton as b ih =>
    rw [List.filter_append, eraseDups_concat]
    cases hb : p b with
    | false => by_cases hmem : b ∈ as <;> simp [hmem, hb, ih]
    | true => by_cases hmem : b ∈ as <;> simp [eraseDups_concat, hmem, hb, ih]

theorem eraseDups_eq_self {as : List α} (h : as.Nodup) : as.eraseDups = as := by
  induction as with
  | nil => rfl
  | cons a as ih =>
    obtain ⟨hnot, hrest⟩ := List.nodup_cons.mp h
    have hfilter : as.filter (fun b => !b == a) = as :=
      List.filter_eq_self.mpr fun b hb => by simpa using ne_of_mem_of_not_mem hb hnot
    rw [List.eraseDups_cons, hfilter, ih hrest]

/-- What is left comes in the order in which it first occurs. -/
theorem pairwise_eraseDups (as : List α) : as.eraseDups.Pairwise fun a b => as.idxOf a < as.idxOf b := by
  induction as using List.reverseRecOn with
  | nil => exact .nil
  | append_singleton as b ih =>
    have hold : as.eraseDups.Pairwise fun a c => (as ++ [b]).idxOf a < (as ++ [b]).idxOf c := by
      refine ih.imp_of_mem fun {a c} ha hc hlt => ?_
      rwa [List.idxOf_append_of_mem (List.mem_eraseDups.mp ha), List.idxOf_append_of_mem (List.mem_eraseDups.mp hc)]
    rw [eraseDups_concat]
    split
    · exact hold
    · rename_i hb
      refine List.pairwise_append.mpr ⟨hold, List.pairwise_singleton _ b, fun a ha c hc => ?_⟩
      have ha := List.mem_eraseDups.mp ha
      obtain rfl := List.mem_singleton.mp hc
      rw [List.idxOf_append_of_mem ha, List.idxOf_append_of_notMem hb]
      exact Nat.lt_of_lt_of_le (List.idxOf_lt_length_of_mem ha) (Nat.le_add_right _ _)

theorem nodup_of_pairwise_idxOf {as bs : List α} (h : bs.Pairwise fun a b => as.idxOf a < as.idxOf b) : bs.Nodup := by
  refine List.Pairwise.imp (fun {a b} hlt => ?_) h
  rintro rfl
  exact Nat.lt_irrefl _ hlt

/-- Lists with the same elements are equal if both are in the order of first occurrences in a third list. -/
theorem eq_of_pairwise_idxOf {as bs cs : List α} (h : ∀ a, a ∈ bs ↔ a ∈ cs)
    (hbs : bs.Pairwise fun a b => as.idxOf a < as.idxOf b) (hcs : cs.Pairwise fun a b => as.idxOf a < as.idxOf b) :
    bs = cs := by
  have hperm : bs.Perm cs :=
    (List.perm_ext_iff_of_nodup (nodup_of_pairwise_idxOf hbs) (nodup_of_pairwise_idxOf hcs)).mpr h
  exact hperm.eq_of_pairwise (fun a b _ _ hab hba => absurd hab (Nat.lt_asymm hba)) hbs hcs

end FirstOccurrences

namespace Target

/-- Whether a trimmed line names a target: it is neither empty nor a comment. -/
def IsTarget (t : String) : Prop := t ≠ "" ∧ t.toList.head? ≠ some '#'

instance : DecidablePred IsTarget := fun t => inferInstanceAs (Decidable (t ≠ "" ∧ t.toList.head? ≠ some '#'))

variable {line t : String}

theorem isTarget_ofList {cs : List Char} : IsTarget (String.ofList cs) ↔ cs ≠ [] ∧ cs.head? ≠ some '#' := by
  simp [IsTarget]

/-- A line names what is left of it when it is trimmed, if that is a target. -/
theorem ofLine?_eq (line : String) :
    ofLine? line = if IsTarget (Text.trim line) then some (Text.trim line) else none := by
  unfold ofLine? Text.trim
  simp only [isTarget_ofList]
  generalize Text.trimChars line.toList = cs
  cases cs with
  | nil => rfl
  | cons c rest =>
    by_cases hc : c = '#'
    · subst hc
      rfl
    · simp [hc]

theorem filterMap_ofLine? (lines : List String) :
    lines.filterMap ofLine? = (lines.map Text.trim).filter fun t => IsTarget t := by
  induction lines with
  | nil => rfl
  | cons line rest ih =>
    rw [List.filterMap_cons, List.map_cons, List.filter_cons, ofLine?_eq, ih]
    by_cases h : IsTarget (Text.trim line) <;> simp [h]

/-- Targets are collected as they are first named. -/
theorem collect_eq (lines : List String) : collect lines = (lines.filterMap ofLine?).eraseDups := by
  unfold collect
  induction lines.filterMap ofLine? using List.reverseRecOn with
  | nil => rfl
  | append_singleton named target ih =>
    rw [List.foldl_append, ih, eraseDups_concat]
    by_cases hnamed : target ∈ named <;> simp [add, hnamed]

/-- Lines can be equal, empty or comments only once they are trimmed. -/
example : collect [" blog", "\t# shop", "blog\u00a0", "\u3000", "wiki"] = ["blog", "wiki"] := by decide

theorem mem_collect_iff {lines : List String} : t ∈ collect lines ↔ t ∈ lines.map Text.trim ∧ IsTarget t := by
  rw [collect_eq, List.mem_eraseDups, filterMap_ofLine?, List.mem_filter, decide_eq_true_iff]

theorem pairwise_collect (lines : List String) :
    (collect lines).Pairwise fun t u => (lines.map Text.trim).idxOf t < (lines.map Text.trim).idxOf u := by
  rw [collect_eq, filterMap_ofLine?, eraseDups_filter]
  exact (pairwise_eraseDups _).filter _

theorem nodup_collect (lines : List String) : (collect lines).Nodup :=
  nodup_of_pairwise_idxOf (pairwise_collect lines)

/-- What is collected has the targets among the trimmed lines, in the order in which they first occur there, and nothing
else is like that. -/
theorem collect_eq_iff {lines ts : List String} : collect lines = ts ↔
    (∀ t, t ∈ ts ↔ t ∈ lines.map Text.trim ∧ IsTarget t) ∧
      ts.Pairwise fun t u => (lines.map Text.trim).idxOf t < (lines.map Text.trim).idxOf u := by
  constructor
  · rintro rfl
    exact ⟨fun t => mem_collect_iff, pairwise_collect lines⟩
  · rintro ⟨hmem, horder⟩
    exact eq_of_pairwise_idxOf (fun t => by rw [mem_collect_iff, hmem]) (pairwise_collect lines) horder

/-- A target that was collected names itself. -/
theorem ofLine?_of_mem_collect {lines : List String} (h : t ∈ collect lines) : ofLine? t = some t := by
  obtain ⟨hmem, htarget⟩ := mem_collect_iff.mp h
  obtain ⟨line, -, rfl⟩ := List.mem_map.mp hmem
  rw [ofLine?_eq, Text.trim_trim, if_pos htarget]

theorem collect_collect (lines : List String) : collect (collect lines) = collect lines := by
  have hsame : (collect lines).filterMap ofLine? = collect lines := by
    rw [List.filterMap_congr fun t ht => ofLine?_of_mem_collect ht, List.filterMap_some]
  rw [collect_eq (collect lines), hsame, eraseDups_eq_self (nodup_collect lines)]

/-- A target that was collected is all that is collected from it. -/
theorem collect_singleton {lines : List String} (h : t ∈ collect lines) : collect [t] = [t] := by
  rw [collect_eq, List.filterMap_cons_some (ofLine?_of_mem_collect h)]
  rfl

theorem collect_append (lines more : List String) :
    collect (lines ++ more) = collect lines ++ (collect more).filter (· ∉ collect lines) := by
  have hnew : (fun t => decide (t ∉ collect lines)) = fun t => !(lines.filterMap ofLine?).elem t := by
    funext t
    rw [collect_eq, List.elem_eq_mem, ← decide_not]
    simp only [List.mem_eraseDups]
  rw [hnew, collect_eq, collect_eq, collect_eq, List.filterMap_append, List.eraseDups_append, List.removeAll,
    eraseDups_filter]

/-- From all lines exactly the targets among the trimmed lines are collected, each once, in the order in which they
first occur. So what was collected stays as it is when it is collected again; the targets of more lines come behind
those that are there, as far as they are new; and a command line has the targets without an option first, then the new
ones of those with an option, none of them twice. -/
theorem collect_firstNamed :
    (∀ lines ts : List String, collect lines = ts ↔
      (∀ t, t ∈ ts ↔ t ∈ lines.map Text.trim ∧ t ≠ "" ∧ t.toList.head? ≠ some '#') ∧
      ts.Pairwise fun t u => (lines.map Text.trim).idxOf t < (lines.map Text.trim).idxOf u) ∧
    (∀ lines : List String, (collect lines).Nodup ∧ collect (collect lines) = collect lines) ∧
    (∀ lines more : List String,
      collect (lines ++ more) = collect lines ++ (collect more).filter (· ∉ collect lines)) ∧
    ∀ c : CommandLine, c.targets.Nodup ∧
      c.targets = collect c.urls ++ (collect c.extraUrls).filter (· ∉ collect c.urls) :=
  ⟨fun _ _ => collect_eq_iff, fun lines => ⟨nodup_collect lines, collect_collect lines⟩, collect_append,
    fun c => ⟨nodup_collect _, collect_append c.urls c.extraUrls⟩⟩

end Target
end SiteProbe
