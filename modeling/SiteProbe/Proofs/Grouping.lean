import SiteProbe.Proofs.Entries
import SiteProbe.Rule.Group

/-!
# What groups hold

Probes are declared technology by technology. A group holds those of the declared probes that share its key, under the
names of their technologies, and leaves out the technologies that have none (`Grouping.get?_gather`,
`Store.technologies_of_mem_groups`). The groups of a store ascend in their keys (`Store.pairwise_groups`).
-/

namespace SiteProbe

namespace Grouping

variable {κ π : Type} {name : String}

/-- The probes that share a key, under the names of their technologies, without technologies that have none. -/
def share [DecidableEq κ] (key : π → κ) (k : κ) (blocks : List (String × List π)) : List (String × List π) :=
  (blocks.map fun b => (b.1, b.2.filter fun p => key p = k)).filter fun b => !b.2.isEmpty

/-- The declared probes of blocks. -/
def declared (blocks : List (String × List π)) : List (String × π) :=
  blocks.flatMap fun b => b.2.map fun p => (b.1, p)

theorem key_eq_of_mem_share [DecidableEq κ] {key : π → κ} {k : κ} {blocks : List (String × List π)}
    {b : String × List π} (hb : b ∈ share key k blocks) : ∀ p ∈ b.2, key p = k := by
  obtain ⟨b', -, rfl⟩ := List.mem_map.mp (List.mem_filter.mp hb).1
  exact fun p hp => by simpa using (List.mem_filter.mp hp).2

/-- If there is an entry under a key, some probe has it. -/
theorem exists_mem_of_share [DecidableEq κ] {key : π → κ} {k : κ} {blocks : List (String × List π)}
    (h : share key k blocks ≠ []) : ∃ p, ((share key k blocks).flatMap (·.2)).head? = some p ∧ key p = k := by
  obtain ⟨b, hb⟩ := List.exists_mem_of_ne_nil _ h
  have hne : b.2 ≠ [] := by simpa using (List.mem_filter.mp hb).2
  obtain ⟨q, hq⟩ := List.exists_mem_of_ne_nil _ hne
  cases hhead : ((share key k blocks).flatMap (·.2)).head? with
  | none =>
    rw [List.head?_eq_none_iff] at hhead
    exact absurd (List.mem_flatMap.mpr ⟨b, hb, hq⟩) (by simp [hhead])
  | some p =>
    obtain ⟨b', hb', hp⟩ := List.mem_flatMap.mp (List.mem_of_mem_head? hhead)
    exact ⟨p, rfl, key_eq_of_mem_share hb' p hp⟩

/-- Enter declared probes one after the other. -/
def enterAll (ts : List (String × List π)) (ds : List (String × π)) : List (String × List π) :=
  ds.foldl (fun ts d => enter d.1 d.2 ts) ts

/-- Only the last technology counts when a probe is entered. -/
theorem enter_concat (p : π) (last : String) (ps : List π) : ∀ ts : List (String × List π),
    enter name p (ts ++ [(last, ps)]) =
      if last = name then ts ++ [(last, ps ++ [p])] else ts ++ [(last, ps), (name, [p])]
  | [] => rfl
  | [t] => by
    show t :: enter name p ([] ++ [(last, ps)]) = _
    rw [enter_concat p last ps []]
    split <;> rfl
  | t :: u :: rest => by
    show t :: enter name p ((u :: rest) ++ [(last, ps)]) = _
    rw [enter_concat p last ps (u :: rest)]
    split <;> rfl

/-- More probes of the last technology go to its others. -/
theorem enterAll_concat_same (qs ps : List π) (ts : List (String × List π)) :
    enterAll (ts ++ [(name, qs)]) (ps.map fun p => (name, p)) = ts ++ [(name, qs ++ ps)] := by
  induction ps generalizing qs with
  | nil => simp [enterAll]
  | cons p rest ih =>
    have hstep : enter name p (ts ++ [(name, qs)]) = ts ++ [(name, qs ++ [p])] := by
      rw [enter_concat, if_pos rfl]
    rw [List.map_cons, enterAll, List.foldl_cons, hstep, ← enterAll, ih, List.append_assoc, List.singleton_append]

/-- The first probe of another technology starts a new one. -/
theorem enter_of_notMem (p : π) {ts : List (String × List π)} (h : name ∉ ts.map (·.1)) :
    enter name p ts = ts ++ [(name, [p])] := by
  rcases List.eq_nil_or_concat ts with rfl | ⟨init, ⟨last, ps⟩, rfl⟩
  · rfl
  · have hne : last ≠ name := fun heq => h (by simp [heq])
    rw [List.concat_eq_append, enter_concat, if_neg hne, List.append_assoc, List.singleton_append]

/-- The probes of another technology go behind all others. -/
theorem enterAll_block (ps : List π) {ts : List (String × List π)} (h : name ∉ ts.map (·.1)) :
    enterAll ts (ps.map fun p => (name, p)) = ts ++ [(name, ps)].filter fun b => !b.2.isEmpty := by
  cases ps with
  | nil => simp [enterAll]
  | cons p rest =>
    rw [List.map_cons, enterAll, List.foldl_cons, enter_of_notMem p h, ← enterAll, enterAll_concat_same]
    simp

/-- Technologies that are declared one after the other stay as they are, but for those without a probe. -/
theorem enterAll_declared (blocks ts : List (String × List π)) (h : ((ts ++ blocks).map (·.1)).Nodup) :
    enterAll ts (declared blocks) = ts ++ blocks.filter fun b => !b.2.isEmpty := by
  induction blocks generalizing ts with
  | nil => simp [enterAll, declared]
  | cons b rest ih =>
    obtain ⟨name, ps⟩ := b
    have hnotMem : name ∉ ts.map (·.1) := by
      rw [List.map_append, List.nodup_append] at h
      intro hmem
      exact h.2.2 name hmem name (by simp) rfl
    have hrest : (((ts ++ [(name, ps)].filter fun b => !b.2.isEmpty) ++ rest).map (·.1)).Nodup := by
      refine h.sublist (List.Sublist.map _ ?_)
      rw [List.append_assoc]
      exact (List.Sublist.append_right List.filter_sublist rest).append_left ts
    have hcons : declared ((name, ps) :: rest) = ps.map (fun p => (name, p)) ++ declared rest := rfl
    rw [hcons, enterAll, List.foldl_append, ← enterAll, ← enterAll, enterAll_block ps hnotMem, ih _ hrest,
      List.append_assoc, ← List.filter_append, List.singleton_append]

/-- The declared probes that share a key are declared one after the other, too. -/
theorem filter_declared [DecidableEq κ] (key : π → κ) (k : κ) (blocks : List (String × List π)) :
    (declared blocks).filter (fun d => key d.2 = k) =
      declared (blocks.map fun b => (b.1, b.2.filter fun p => key p = k)) := by
  unfold declared
  rw [List.filter_flatMap, List.flatMap_map]
  congr 1
  funext b
  rw [List.filter_map]
  rfl

/-- Declared probes that share a key are entered under the names of their technologies. -/
theorem enterAll_filter_declared [DecidableEq κ] (key : π → κ) (k : κ) {blocks : List (String × List π)}
    (h : (blocks.map (·.1)).Nodup) :
    enterAll [] ((declared blocks).filter fun d => key d.2 = k) = share key k blocks := by
  rw [filter_declared, enterAll_declared, List.nil_append, share]
  rwa [List.nil_append, List.map_map]

/-- No declared probe has a key if none of any technology has. -/
theorem filter_declared_eq_nil_iff [DecidableEq κ] (key : π → κ) (k : κ) (blocks : List (String × List π)) :
    (declared blocks).filter (fun d => key d.2 = k) = [] ↔ share key k blocks = [] := by
  rw [filter_declared]
  simp [declared, share, List.filter_eq_nil_iff]

variable [Ord κ] [Std.TransOrd κ] [Std.LawfulEqOrd κ] [DecidableEq κ]

/-- What is gathered under a key depends on the probes with that key alone. -/
theorem get?_foldl_add (key : π → κ) (k : κ) (ds : List (String × π)) (groups : Dict κ (List (String × List π))) :
    (ds.foldl (add key) groups).get? k = (ds.filter fun d => key d.2 = k).foldl
      (fun found d => some (enter d.1 d.2 (found.getD []))) (groups.get? k) := by
  induction ds generalizing groups with
  | nil => rfl
  | cons d rest ih =>
    rw [List.foldl_cons, ih, add, Dict.get?_insert]
    by_cases hk : k = key d.2
    · subst hk
      simp
    · rw [if_neg hk, List.filter_cons_of_neg (by simpa using Ne.symm hk)]

theorem foldl_some_enter (ds : List (String × π)) (ts : List (String × List π)) :
    ds.foldl (fun found d => some (enter d.1 d.2 (found.getD []))) (some ts) = some (enterAll ts ds) := by
  induction ds generalizing ts with
  | nil => rfl
  | cons d rest ih => exact ih (enter d.1 d.2 ts)

/-- Under each key, the probes that share it are gathered, technology by technology. -/
theorem get?_gather (key : π → κ) (k : κ) {blocks : List (String × List π)} (h : (blocks.map (·.1)).Nodup) :
    (gather key (declared blocks)).get? k =
      if share key k blocks = [] then none else some (share key k blocks) := by
  rw [gather, get?_foldl_add, Dict.get?_empty, ← enterAll_filter_declared key k h]
  cases hds : (declared blocks).filter fun d => key d.2 = k with
  | nil => rfl
  | cons d rest =>
    have hne : enterAll [] (d :: rest) ≠ [] := fun hnil => by
      rw [← hds, enterAll_filter_declared key k h, ← filter_declared_eq_nil_iff, hds] at hnil
      cases hnil
    rw [if_neg hne, List.foldl_cons, foldl_some_enter]
    rfl

end Grouping

/-! ## The groups of a store -/

/-- Keys are in the order of their paths, and under one path in that of the shapes. -/
theorem GroupKey.compare_eq_lt_iff {a b : GroupKey} :
    compare a b = .lt ↔ a.path < b.path ∨ a.path = b.path ∧ a.shape < b.shape := by
  show (compare a.path b.path).then (compare a.shape b.shape) = .lt ↔ _
  rw [Ordering.then_eq_lt, Std.LawfulEqCmp.compare_eq_iff_eq]
  exact or_congr compareOfLessAndEq_eq_lt (and_congr_right fun _ => compareOfLessAndEq_eq_lt)

namespace Group

/-- What the probes of a group share. -/
def key (g : Group) : GroupKey := ⟨g.path, g.request.shapeKey⟩

end Group

namespace Store

/-- The probes of pages of a store, technology by technology. -/
def probeBlocks (s : Store) : List (String × List Probe) := s.toList.map fun e => (e.1, e.2.paths)

/-- The probes of a technology that share a key, in the order of their declaration. -/
def probesAt (s : Store) (k : GroupKey) (name : String) : List Probe :=
  (((s.get? name).map (·.paths)).getD []).filter fun p => p.key = k

/-- What fingerprints list is declared by the blocks of their lists. -/
theorem declared_listed {π : Type} (s : Store) (listed : Fingerprint → List π) :
    s.toList.flatMap (fun e => (listed e.2).map fun p => (e.1, p)) =
      Grouping.declared (s.toList.map fun e => (e.1, listed e.2)) := by
  rw [Grouping.declared, List.flatMap_map]

theorem nodup_listed {π : Type} (s : Store) (listed : Fingerprint → List π) :
    ((s.toList.map fun e => (e.1, listed e.2)).map (·.1)).Nodup := by
  rw [List.map_map]
  exact s.nodup_keys

theorem declaredProbes_eq (s : Store) : s.declaredProbes = Grouping.declared s.probeBlocks := s.declared_listed _

theorem nodup_probeBlocks (s : Store) : (s.probeBlocks.map (·.1)).Nodup := s.nodup_listed _

/-- Under a key, a technology has its probes with that key, and no entry if there are none. -/
theorem filter_share (s : Store) (k : GroupKey) (name : String) :
    (Grouping.share Probe.key k s.probeBlocks).filter (fun b => b.1 = name) =
      [(name, s.probesAt k name)].filter fun b => !b.2.isEmpty := by
  unfold Grouping.share probeBlocks probesAt
  rw [List.filter_filter, List.filter_congr fun b _ => Bool.and_comm _ _, ← List.filter_filter, List.map_map,
    List.filter_map]
  -- the filter by name is one of the entries of the store
  show List.filter _ (List.map _ (s.toList.filter fun e => e.1 = name)) = _
  rw [Dict.filter_toList]
  cases s.get? name <;> rfl

/-- A group is made of the probes that share its key, and there are some. -/
theorem ofEntry_key {s : Store} {e : GroupKey × List (String × List Probe)}
    (h : e ∈ (Grouping.gather Probe.key s.declaredProbes).toList) :
    (Group.ofEntry e).key = e.1 ∧ e.2 = Grouping.share Probe.key e.1 s.probeBlocks := by
  obtain ⟨k, ts⟩ := e
  have hget := Dict.mem_toList_iff.mp h
  rw [declaredProbes_eq, Grouping.get?_gather Probe.key k s.nodup_probeBlocks] at hget
  split at hget
  · cases hget
  · rename_i hne
    obtain rfl := Option.some.inj hget
    obtain ⟨p, hhead, rfl⟩ := Grouping.exists_mem_of_share hne
    refine ⟨?_, rfl⟩
    unfold Group.ofEntry Group.key
    simp only [hhead, Option.map_some, Option.getD_some]
    rfl

/-- A group holds the probes of the store that share its key. -/
theorem technologies_of_mem_groups {s : Store} {g : Group} (h : g ∈ s.groups) :
    g.technologies = Grouping.share Probe.key g.key s.probeBlocks := by
  obtain ⟨e, he, rfl⟩ := List.mem_map.mp h
  obtain ⟨hkey, htechnologies⟩ := ofEntry_key he
  rw [hkey]
  exact htechnologies

/-- The groups of a store ascend in their keys. -/
theorem pairwise_groups (s : Store) : s.groups.Pairwise fun g h => compare g.key h.key = .lt := by
  rw [groups, List.pairwise_map]
  refine (Grouping.gather Probe.key s.declaredProbes).sorted.imp_of_mem fun ha hb hlt => ?_
  rw [(ofEntry_key ha).1, (ofEntry_key hb).1]
  exact hlt

end Store
end SiteProbe
