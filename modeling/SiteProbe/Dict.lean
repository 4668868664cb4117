/-!
# Dictionaries in key order

A dictionary is a list of entries whose keys strictly increase, so that a dictionary is known by its lookups
(`ext_get?`) and its listing does not depend on the order of insertion. Inserting replaces the old value
(`get?_insert`).
-/

namespace SiteProbe

/-- A finite map whose entries are listed in increasing key order. -/
structure Dict (κ : Type) (α : Type) [Ord κ] where
  entries : List (κ × α)
  sorted : entries.Pairwise fun a b => compare a.1 b.1 = .lt

namespace Dict

variable {κ α β : Type} [Ord κ]

/-- The value of the first entry under a key. -/
def lookup (k : κ) : List (κ × α) → Option α
  | [] => none
  | (k', v) :: rest => if compare k k' = .eq then some v else lookup k rest

/-- Put an entry in its place, replacing the one under the same key. -/
def insertEntry (k : κ) (v : α) : List (κ × α) → List (κ × α)
  | [] => [(k, v)]
  | (k', v') :: rest =>
    match compare k k' with
    | .lt => (k, v) :: (k', v') :: rest
    | .eq => (k, v) :: rest
    | .gt => (k', v') :: insertEntry k v rest

/-- The entries after an insertion are the old ones and the new one. -/
theorem mem_of_mem_insertEntry {k : κ} {v : α} {e : κ × α} :
    ∀ {es : List (κ × α)}, e ∈ insertEntry k v es → e = (k, v) ∨ e ∈ es
  | [], h => by simpa [insertEntry] using h
  | (k', v') :: rest, h => by
    unfold insertEntry at h
    split at h
    · simpa using h
    · rcases List.mem_cons.mp h with h | h
      · exact .inl h
      · exact .inr (List.mem_cons_of_mem _ h)
    · rcases List.mem_cons.mp h with h | h
      · exact .inr (h ▸ List.mem_cons_self)
      · rcases mem_of_mem_insertEntry h with h | h
        · exact .inl h
        · exact .inr (List.mem_cons_of_mem _ h)

/-- Insertion keeps the entries in order. -/
theorem sorted_insertEntry [Std.TransOrd κ] [Std.LawfulEqOrd κ] {k : κ} {v : α} :
    ∀ {es : List (κ × α)}, (es.Pairwise fun a b => compare a.1 b.1 = .lt) →
      (insertEntry k v es).Pairwise fun a b => compare a.1 b.1 = .lt
  | [], _ => by simp [insertEntry]
  | (k', v') :: rest, h => by
    rw [List.pairwise_cons] at h
    unfold insertEntry
    split
    · rename_i hk
      refine List.pairwise_cons.mpr ⟨fun e he => ?_, List.pairwise_cons.mpr h⟩
      rcases List.mem_cons.mp he with rfl | he
      · exact hk
      · exact Std.TransCmp.lt_trans hk (h.1 e he)
    · rename_i hk
      obtain rfl := Std.LawfulEqCmp.compare_eq_iff_eq.mp hk
      exact List.pairwise_cons.mpr ⟨h.1, h.2⟩
    · rename_i hk
      refine List.pairwise_cons.mpr ⟨fun e he => ?_, sorted_insertEntry h.2⟩
      rcases mem_of_mem_insertEntry he with rfl | he
      · exact Std.OrientedCmp.gt_iff_lt.mp hk
      · exact h.1 e he

/-- After an insertion the new key is found with the new value and every other key as before. -/
theorem lookup_insertEntry [DecidableEq κ] [Std.TransOrd κ] [Std.LawfulEqOrd κ] {k j : κ} {v : α} :
    ∀ {es : List (κ × α)}, lookup j (insertEntry k v es) = if j = k then some v else lookup j es
  | [] => by simp [insertEntry, lookup]
  | (k', v') :: rest => by
    unfold insertEntry
    split
    · simp [lookup]
    · rename_i hk
      obtain rfl := Std.LawfulEqCmp.compare_eq_iff_eq.mp hk
      by_cases h : j = k <;> simp [lookup, h]
    · rename_i hk
      have hne : k ≠ k' := fun h => by simp [h] at hk
      by_cases h : j = k'
      · subst h
        simp [lookup, hne.symm]
      · simp [lookup, h, lookup_insertEntry]

/-- No entry has a key below all of theirs. -/
theorem lookup_eq_none_of_lt [Std.TransOrd κ] [Std.LawfulEqOrd κ] {k : κ} {es : List (κ × α)}
    (h : ∀ e ∈ es, compare k e.1 = .lt) : lookup k es = none := by
  induction es with
  | nil => rfl
  | cons e rest ih =>
    have he := h e List.mem_cons_self
    simp only [lookup, he]
    exact ih fun e he => h e (List.mem_cons_of_mem _ he)

instance : Inhabited (Dict κ α) := ⟨⟨[], .nil⟩⟩

/-- The dictionary with no entries. -/
def empty : Dict κ α := ⟨[], .nil⟩

/-- The value under a key. -/
def get? (d : Dict κ α) (k : κ) : Option α := lookup k d.entries

/-- Whether a key has a value. -/
def contains (d : Dict κ α) (k : κ) : Bool := (d.get? k).isSome

/-- The entries in key order. -/
def toList (d : Dict κ α) : List (κ × α) := d.entries

/-- The keys in order. -/
def keys (d : Dict κ α) : List κ := d.entries.map (·.1)

/-- How many keys there are. -/
def size (d : Dict κ α) : Nat := d.entries.length

/-- Whether there are no entries. -/
def isEmpty (d : Dict κ α) : Bool := d.entries.isEmpty

@[simp]
theorem get?_empty (k : κ) : (empty : Dict κ α).get? k = none := rfl

variable [Std.TransOrd κ] [Std.LawfulEqOrd κ]

/-- Give a key a value, replacing the one it had. -/
def insert (d : Dict κ α) (k : κ) (v : α) : Dict κ α := ⟨insertEntry k v d.entries, sorted_insertEntry d.sorted⟩

/-- Insert entries one after the other; of two with one key the later one stays. -/
def insertAll (d : Dict κ α) (es : List (κ × α)) : Dict κ α := es.foldl (fun d e => d.insert e.1 e.2) d

/-- The dictionary of a list of entries; of two with one key the later one stays. -/
def ofList (es : List (κ × α)) : Dict κ α := empty.insertAll es

section

variable [DecidableEq κ]

theorem get?_insert (d : Dict κ α) (k j : κ) (v : α) :
    (d.insert k v).get? j = if j = k then some v else d.get? j :=
  lookup_insertEntry

@[simp]
theorem get?_insert_self (d : Dict κ α) (k : κ) (v : α) : (d.insert k v).get? k = some v := by
  simp [get?_insert]

theorem get?_insert_of_ne (d : Dict κ α) {k j : κ} (v : α) (h : j ≠ k) : (d.insert k v).get? j = d.get? j := by
  simp [get?_insert, h]

end

/-- Sorted lists with the same lookups are the same list. -/
theorem eq_of_lookup_eq : ∀ {es fs : List (κ × α)}, (es.Pairwise fun a b => compare a.1 b.1 = .lt) →
    (fs.Pairwise fun a b => compare a.1 b.1 = .lt) → (∀ k, lookup k es = lookup k fs) → es = fs
  | [], [], _, _, _ => rfl
  | [], (k, v) :: fs, _, _, h => by simpa [lookup] using h k
  | (k, v) :: es, [], _, _, h => by simpa [lookup] using h k
  | (k, v) :: es, (k', v') :: fs, hes, hfs, h => by
    rw [List.pairwise_cons] at hes hfs
    have hkk : k = k' := by
      rcases hc : compare k k' with _ | _ | _
      · have hk := h k
        have hn : lookup k fs = none :=
          lookup_eq_none_of_lt fun e he => Std.TransCmp.lt_trans hc (hfs.1 e he)
        simp [lookup, hc, hn] at hk
      · exact Std.LawfulEqCmp.compare_eq_iff_eq.mp hc
      · have hc := Std.OrientedCmp.gt_iff_lt.mp hc
        have hk := h k'
        have hn : lookup k' es = none :=
          lookup_eq_none_of_lt fun e he => Std.TransCmp.lt_trans hc (hes.1 e he)
        simp [lookup, hc, hn] at hk
    subst hkk
    have hv : v = v' := by simpa [lookup] using h k
    subst hv
    rw [eq_of_lookup_eq hes.2 hfs.2 fun j => ?_]
    by_cases hj : compare j k = .eq
    · obtain rfl := Std.LawfulEqCmp.compare_eq_iff_eq.mp hj
      rw [lookup_eq_none_of_lt hes.1, lookup_eq_none_of_lt hfs.1]
    · simpa [lookup, hj] using h j

/-- A dictionary is known by its lookups. -/
theorem ext_get? {d e : Dict κ α} (h : ∀ k, d.get? k = e.get? k) : d = e := by
  have he := eq_of_lookup_eq d.sorted e.sorted h
  cases d; cases e
  cases he
  rfl

end Dict
end SiteProbe
