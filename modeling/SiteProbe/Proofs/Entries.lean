import Mathlib.Data.List.Nodup
import SiteProbe.Detections

/-!
# Entries of dictionaries

A dictionary has one entry for each key: no key is listed twice (`nodup_keys`), the only entry under a key is the one
that looking it up gives (`filter_toList`), and an entry is listed if its key gives its value (`mem_toList_iff`). It
stands at one place: without its key the others are left, and a new value under its key takes its place
(`toList_split`). Of values that are inserted under one key the last one counts (`get?_insertAll`).
-/

namespace SiteProbe.Dict

variable {κ α : Type} [Ord κ] [Std.LawfulEqOrd κ]

/-- No key is listed twice. -/
theorem nodup_keys (d : Dict κ α) : (d.toList.map (·.1)).Nodup := by
  rw [List.Nodup, List.pairwise_map]
  refine d.sorted.imp fun h heq => ?_
  cases h.symm.trans (Std.LawfulEqCmp.compare_eq_iff_eq.mpr heq)

/-- The entries under a key are the one that is looked up. -/
theorem filter_eq_lookup [DecidableEq κ] {k : κ} : ∀ {es : List (κ × α)},
    (es.Pairwise fun a b => compare a.1 b.1 = .lt) →
      (es.filter fun e => e.1 = k) = (lookup k es).toList.map fun v => (k, v)
  | [], _ => rfl
  | (k', v) :: rest, h => by
    obtain ⟨hhead, hrest⟩ := List.pairwise_cons.mp h
    by_cases hk : compare k k' = .eq
    · obtain rfl := Std.LawfulEqCmp.compare_eq_iff_eq.mp hk
      have hnil : (rest.filter fun e => e.1 = k) = [] := by
        rw [List.filter_eq_nil_iff]
        intro e he hke
        have hlt := hhead e he
        rw [of_decide_eq_true hke, hk] at hlt
        cases hlt
      simp [lookup, hnil]
    · have hne : k' ≠ k := fun heq => hk (Std.LawfulEqCmp.compare_eq_iff_eq.mpr heq.symm)
      simp [lookup, hk, hne, filter_eq_lookup hrest]

theorem filter_toList [DecidableEq κ] (d : Dict κ α) (k : κ) :
    (d.toList.filter fun e => e.1 = k) = (d.get? k).toList.map fun v => (k, v) := filter_eq_lookup d.sorted

/-- What is listed is what is looked up. -/
theorem mem_toList_iff [DecidableEq κ] {d : Dict κ α} {k : κ} {v : α} : (k, v) ∈ d.toList ↔ d.get? k = some v := by
  have hfilter : (k, v) ∈ d.toList ↔ (k, v) ∈ d.toList.filter fun e => e.1 = k := by
    rw [List.mem_filter, decide_eq_true rfl]
    exact (and_iff_left rfl).symm
  rw [hfilter, filter_toList]
  simp

theorem contains_iff [DecidableEq κ] {d : Dict κ α} {k : κ} : d.contains k = true ↔ k ∈ d.keys := by
  unfold contains keys
  rw [Option.isSome_iff_exists, List.mem_map]
  constructor
  · rintro ⟨v, hv⟩
    exact ⟨(k, v), mem_toList_iff.mpr hv, rfl⟩
  · rintro ⟨e, he, rfl⟩
    exact ⟨e.2, mem_toList_iff.mp he⟩

/-! ## Changes at one place -/

/-- A dictionary without a key. -/
def erase [DecidableEq κ] (d : Dict κ α) (k : κ) : Dict κ α := ⟨d.entries.filter (·.1 ≠ k), d.sorted.filter _⟩

/-- A value behind smaller keys takes the place of the one under its key. -/
theorem insertEntry_append [Std.OrientedOrd κ] {k : κ} {v w : α} {before : List (κ × α)}
    (hbefore : ∀ e ∈ before, compare e.1 k = .lt) (after : List (κ × α)) :
    insertEntry k w (before ++ (k, v) :: after) = before ++ (k, w) :: after := by
  induction before with
  | nil => simp only [List.nil_append, insertEntry, Std.ReflCmp.compare_self]
  | cons e before ih =>
    rw [List.forall_mem_cons] at hbefore
    have hgt : compare k e.1 = .gt := Std.OrientedCmp.gt_iff_lt.mpr hbefore.1
    simp only [List.cons_append, insertEntry, hgt, ih hbefore.2]

/-- An entry stands between smaller and larger ones: they are left without its key, and a new value under its key takes
its place. -/
theorem toList_split [DecidableEq κ] [Std.TransOrd κ] {d : Dict κ α} {k : κ} {v : α} (h : (k, v) ∈ d.toList) :
    ∃ before after, d.toList = before ++ (k, v) :: after ∧ (d.erase k).toList = before ++ after ∧
      ∀ w, (d.insert k w).toList = before ++ (k, w) :: after := by
  obtain ⟨before, after, hsplit⟩ := List.append_of_mem h
  have hsorted := d.sorted
  change d.toList.Pairwise _ at hsorted
  rw [hsplit, List.pairwise_append, List.pairwise_cons] at hsorted
  obtain ⟨-, ⟨hafter, -⟩, hbefore⟩ := hsorted
  have hlt (e : κ × α) (he : e ∈ before) : compare e.1 k = .lt := hbefore e he (k, v) List.mem_cons_self
  have hne {k' : κ} (hk : compare k' k = .lt ∨ compare k k' = .lt) : k' ≠ k := by
    intro heq
    have hself : compare k k = .eq := Std.ReflCmp.compare_self
    rw [heq, hself, or_self] at hk
    cases hk
  refine ⟨before, after, hsplit, ?_, fun w => ?_⟩
  · change d.toList.filter _ = _
    rw [hsplit, List.filter_append, List.filter_cons_of_neg (by simp),
      List.filter_eq_self.mpr fun e he => decide_eq_true (hne (.inl (hlt e he))),
      List.filter_eq_self.mpr fun e he => decide_eq_true (hne (.inr (hafter e he)))]
  · change insertEntry k w d.toList = _
    rw [hsplit]
    exact insertEntry_append hlt after

/-! ## Insertions -/

/-- The value that was inserted last under a key. -/
def latest? [DecidableEq κ] (es : List (κ × α)) (k : κ) : Option α := (es.reverse.find? fun e => e.1 = k).map (·.2)

section Insertions

variable {β : Type} [Std.TransOrd κ] [DecidableEq κ]

theorem get?_insertAll (d : Dict κ α) (es : List (κ × α)) (k : κ) :
    (d.insertAll es).get? k = (latest? es k).or (d.get? k) := by
  unfold latest?
  induction es generalizing d with
  | nil => rfl
  | cons e rest ih =>
    have hstep : d.insertAll (e :: rest) = (d.insert e.1 e.2).insertAll rest := rfl
    rw [hstep, ih, get?_insert, List.reverse_cons, List.find?_append]
    cases rest.reverse.find? fun e => e.1 = k with
    | some found => rfl
    | none =>
      by_cases hk : e.1 = k
      · simp [hk]
      · simp [hk, Ne.symm hk]

/-- Insertions make a dictionary if its values are those that were inserted last. -/
theorem ofList_eq {d : Dict κ α} {es : List (κ × α)} (h : ∀ k, latest? es k = d.get? k) : ofList es = d :=
  ext_get? fun k => by rw [ofList, get?_insertAll, get?_empty, Option.or_none, h]

theorem get?_ofList (es : List (κ × α)) (k : κ) : (ofList es).get? k = latest? es k := by
  rw [ofList, get?_insertAll, get?_empty, Option.or_none]

omit [Ord κ] [Std.LawfulEqOrd κ] [Std.TransOrd κ]

/-! ### What was inserted last -/

theorem latest?_append (es fs : List (κ × α)) (k : κ) : latest? (es ++ fs) k = (latest? fs k).or (latest? es k) := by
  unfold latest?
  rw [List.reverse_append, List.find?_append, Option.map_or]

theorem latest?_singleton (k' k : κ) (v : α) : latest? [(k', v)] k = if k' = k then some v else none := by
  by_cases h : k' = k <;> simp [latest?, h]

theorem latest?_cons (k' : κ) (v : α) (es : List (κ × α)) (k : κ) :
    latest? ((k', v) :: es) k = (latest? es k).or (if k' = k then some v else none) := by
  rw [← List.singleton_append, latest?_append, latest?_singleton]

theorem latest?_map (f : α → β) (es : List (κ × α)) (k : κ) :
    latest? (es.map fun e => (e.1, f e.2)) k = (latest? es k).map f := by
  unfold latest?
  rw [← List.map_reverse, List.find?_map, Option.map_map, Option.map_map]
  rfl

theorem mem_of_latest? {es : List (κ × α)} {k : κ} {v : α} (h : latest? es k = some v) : (k, v) ∈ es := by
  obtain ⟨e, hfind, rfl⟩ := Option.map_eq_some_iff.mp h
  obtain rfl : e.1 = k := by simpa using List.find?_some hfind
  exact List.mem_reverse.mp (List.mem_of_find?_eq_some hfind)

/-- Of entries with different keys, each one counts. -/
theorem latest?_eq_some_iff {es : List (κ × α)} (h : (es.map (·.1)).Nodup) {k : κ} {v : α} :
    latest? es k = some v ↔ (k, v) ∈ es := by
  refine ⟨mem_of_latest?, fun hmem => ?_⟩
  unfold latest?
  cases hfind : es.reverse.find? fun e => e.1 = k with
  | none => simpa using List.find?_eq_none.mp hfind (k, v) (List.mem_reverse.mpr hmem)
  | some e =>
    have hkey : e.1 = k := by simpa using List.find?_some hfind
    have he : e ∈ es := List.mem_reverse.mp (List.mem_of_find?_eq_some hfind)
    rw [List.inj_on_of_nodup_map h he hmem hkey]
    rfl

theorem latest?_toList [Ord κ] [Std.LawfulEqOrd κ] (d : Dict κ α) (k : κ) : latest? d.toList k = d.get? k :=
  Option.ext fun v => by rw [latest?_eq_some_iff d.nodup_keys, mem_toList_iff]

end Insertions

end SiteProbe.Dict
