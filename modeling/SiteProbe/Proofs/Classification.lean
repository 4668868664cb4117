import Mathlib.Data.List.Perm.Basic
import SiteProbe.Proofs.ByteOrder
import SiteProbe.Proofs.SharedRequests

/-!
# Grouping as a classification

Gathering declared probes by a key neither loses nor repeats any of them: the listing of all groups is a reordering of
the declarations (`Grouping.Classifies.once`), and each group has, of each technology, the declared probes with its key
and nothing else (`Grouping.classifies_gather`). Both kinds of groups of a store are such classifications, and they
depend on what the store maps names to, not on how it came to do so (`Store.groups_classify`).
-/

namespace SiteProbe

/-! ## Listing by keys -/

/-- Listing by distinct keys that cover everything reorders a list. -/
theorem perm_flatMap_filter {α κ : Type} [DecidableEq κ] (key : α → κ) {ks : List κ} {l : List α} (hks : ks.Nodup)
    (h : ∀ a ∈ l, key a ∈ ks) : (ks.flatMap fun k => l.filter fun a => key a = k).Perm l := by
  induction ks generalizing l with
  | nil =>
    have hnil : l = [] := List.eq_nil_iff_forall_not_mem.mpr fun a ha => List.not_mem_nil (h a ha)
    rw [hnil]
    exact .nil
  | cons k rest ih =>
    obtain ⟨hk, hrest⟩ := List.nodup_cons.mp hks
    let others := l.filter fun a => !decide (key a = k)
    have hcover : ∀ a ∈ others, key a ∈ rest := by
      intro a ha
      obtain ⟨hal, hne⟩ := List.mem_filter.mp ha
      exact (List.mem_cons.mp (h a hal)).resolve_left (by simpa using hne)
    -- what has one of the other keys is among the others
    have hsame : (rest.flatMap fun k' => l.filter fun a => key a = k') =
        rest.flatMap fun k' => others.filter fun a => key a = k' := by
      refine List.flatMap_congr fun k' hk' => ?_
      rw [List.filter_filter]
      refine List.filter_congr fun a _ => ?_
      by_cases hkey : key a = k'
      · have hne : k' ≠ k := fun heq => hk (heq ▸ hk')
        simp [hkey, hne]
      · simp [hkey]
    rw [List.flatMap_cons, hsame]
    exact ((ih hrest hcover).append_left _).trans (List.filter_append_perm _ l)

namespace Grouping

variable {κ π : Type} [DecidableEq κ]

/-- Groups classify the probes that technologies declare: they ascend in their keys, they list every declaration once,
a group has of a technology the probes with its key in the order of their declaration, none of it is empty, and the
names of its technologies ascend. -/
structure Classifies (key : π → κ) (before : κ → κ → Prop) (blocks : List (String × List π))
    (groups : List (κ × List (String × List π))) : Prop where
  ascending : groups.Pairwise fun g h => before g.1 h.1
  once : (groups.flatMap fun g => declared g.2).Perm (declared blocks)
  own : ∀ g ∈ groups, ∀ b ∈ g.2, ∃ probes, (b.1, probes) ∈ blocks ∧ b.2 = probes.filter fun p => key p = g.1
  notEmpty : ∀ g ∈ groups, g.2 ≠ [] ∧ ∀ b ∈ g.2, b.2 ≠ []
  names : ∀ g ∈ groups, g.2.Pairwise fun b c => Utf8.encode b.1 < Utf8.encode c.1

variable {key : π → κ} {blocks : List (String × List π)}

/-- Technologies without a probe declare nothing. -/
theorem declared_filter_isEmpty (blocks : List (String × List π)) :
    declared (blocks.filter fun b => !b.2.isEmpty) = declared blocks := by
  induction blocks with
  | nil => rfl
  | cons b rest ih =>
    obtain ⟨name, probes⟩ := b
    have hcons (bs : List (String × List π)) :
        declared ((name, probes) :: bs) = probes.map (fun p => (name, p)) ++ declared bs := rfl
    cases probes with
    | nil => exact ih
    | cons p ps => rw [List.filter_cons_of_pos rfl, hcons, hcons, ih]

/-- The probes that share a key are listed in the order of their declaration. -/
theorem declared_share (key : π → κ) (k : κ) (blocks : List (String × List π)) :
    declared (share key k blocks) = (declared blocks).filter fun d => key d.2 = k := by
  rw [share, declared_filter_isEmpty, filter_declared]

theorem exists_of_mem_share {k : κ} {b : String × List π} (hb : b ∈ share key k blocks) :
    ∃ probes, (b.1, probes) ∈ blocks ∧ b.2 = probes.filter fun p => key p = k := by
  obtain ⟨⟨name, probes⟩, hmem, rfl⟩ := List.mem_map.mp (List.mem_filter.mp hb).1
  exact ⟨probes, hmem, rfl⟩

theorem ne_nil_of_mem_share {k : κ} {b : String × List π} (hb : b ∈ share key k blocks) : b.2 ≠ [] := by
  simpa using (List.mem_filter.mp hb).2

/-- Technologies keep their order when they share a key. -/
theorem pairwise_share (k : κ) (h : blocks.Pairwise fun b c => b.1 < c.1) :
    (share key k blocks).Pairwise fun b c => b.1 < c.1 := by
  unfold share
  refine List.Pairwise.filter _ (List.pairwise_map.mpr ?_)
  exact h

variable [Ord κ] [Std.TransOrd κ] [Std.LawfulEqOrd κ]

theorem eq_share_of_mem_gather (hnames : (blocks.map (·.1)).Nodup) {g : κ × List (String × List π)}
    (hg : g ∈ (gather key (declared blocks)).toList) :
    g.2 = share key g.1 blocks ∧ share key g.1 blocks ≠ [] := by
  have hget := Dict.mem_toList_iff.mp (show (g.1, g.2) ∈ _ from hg)
  rw [get?_gather key g.1 hnames] at hget
  split at hget
  · cases hget
  · rename_i hne
    exact ⟨(Option.some.inj hget).symm, hne⟩

/-- There is a group for the key of every declared probe. -/
theorem key_mem_gather (hnames : (blocks.map (·.1)).Nodup) {d : String × π} (hd : d ∈ declared blocks) :
    key d.2 ∈ (gather key (declared blocks)).toList.map (·.1) := by
  have hne : share key (key d.2) blocks ≠ [] := by
    rw [ne_eq, ← filter_declared_eq_nil_iff]
    exact List.ne_nil_of_mem (List.mem_filter.mpr ⟨hd, decide_eq_true rfl⟩)
  have hget := get?_gather key (key d.2) hnames
  rw [if_neg hne] at hget
  exact List.mem_map.mpr ⟨_, Dict.mem_toList_iff.mpr hget, rfl⟩

/-- Gathering probes classifies them, if the names of their technologies ascend. -/
theorem classifies_gather (key : π → κ) {before : κ → κ → Prop} (hbefore : ∀ k l, compare k l = .lt → before k l)
    (hblocks : blocks.Pairwise fun b c => b.1 < c.1) :
    Classifies key before blocks (gather key (declared blocks)).toList := by
  have hnames : (blocks.map (·.1)).Nodup := by
    rw [List.Nodup, List.pairwise_map]
    refine hblocks.imp fun hlt heq => ?_
    rw [heq] at hlt
    exact String.lt_irrefl _ hlt
  have hshare {g : κ × List (String × List π)} (hg : g ∈ (gather key (declared blocks)).toList) :=
    eq_share_of_mem_gather hnames hg
  refine ⟨(gather key (declared blocks)).sorted.imp fun hlt => hbefore _ _ hlt, ?_, fun g hg b hb => ?_,
    fun g hg => ⟨?_, fun b hb => ?_⟩, fun g hg => ?_⟩
  · have hlist : ((gather key (declared blocks)).toList.flatMap fun g => declared g.2) =
        ((gather key (declared blocks)).toList.map (·.1)).flatMap fun k =>
          (declared blocks).filter fun d => key d.2 = k := by
      rw [List.flatMap_map]
      exact List.flatMap_congr fun g hg => by rw [(hshare hg).1, declared_share]
    rw [hlist]
    exact perm_flatMap_filter (fun d => key d.2) (Dict.nodup_keys _) fun d hd => key_mem_gather hnames hd
  · rw [(hshare hg).1] at hb
    exact exists_of_mem_share hb
  · rw [(hshare hg).1]
    exact (hshare hg).2
  · rw [(hshare hg).1] at hb
    exact ne_nil_of_mem_share hb
  · rw [(hshare hg).1]
    exact (pairwise_share g.1 hblocks).imp fun hlt => Utf8.encode_lt_encode_iff.mpr hlt

end Grouping

/-! ## The groups of a store -/

/-- Keys come before others byte by byte: in their paths, and under one path in the shapes. -/
def GroupKey.Before (k l : GroupKey) : Prop :=
  Utf8.encode k.path < Utf8.encode l.path ∨ k.path = l.path ∧ Utf8.encode k.shape < Utf8.encode l.shape

theorem GroupKey.before_of_compare {k l : GroupKey} (h : compare k l = .lt) : k.Before l := by
  unfold Before
  rw [Utf8.encode_lt_encode_iff, Utf8.encode_lt_encode_iff]
  exact compare_eq_lt_iff.mp h

namespace Store

/-- The script probes of a store, technology by technology. -/
def scriptBlocks (s : Store) : List (String × List ScriptProbe) := s.toList.map fun e => (e.1, e.2.scripts)

/-- The names of a store ascend. -/
theorem pairwise_toList (s : Store) : s.toList.Pairwise fun a b => a.1 < b.1 :=
  s.sorted.imp fun h => compareOfLessAndEq_eq_lt.mp h

theorem groups_eq (s : Store) : s.groups.map (fun g => (g.key, g.technologies)) =
    (Grouping.gather Probe.key (Grouping.declared s.probeBlocks)).toList := by
  rw [groups, List.map_map, ← declaredProbes_eq]
  refine (List.map_congr_left fun e he => ?_).trans (List.map_id _)
  exact Prod.ext (ofEntry_key he).1 rfl

theorem declaredScripts_eq (s : Store) : s.declaredScripts = Grouping.declared s.scriptBlocks := s.declared_listed _

theorem scriptGroups_eq (s : Store) : s.scriptGroups.map (fun g => (g.path, g.technologies)) =
    (Grouping.gather (·.path) (Grouping.declared s.scriptBlocks)).toList := by
  rw [scriptGroups, List.map_map, ← declaredScripts_eq]
  exact List.map_id _

/-- What fingerprints list, each under the name of its technology, is listed by the fingerprint that has the name. -/
theorem mem_listed_iff {π : Type} {s : Store} {listed : Fingerprint → List π} {name : String} {p : π} :
    (name, p) ∈ s.toList.flatMap (fun e => (listed e.2).map fun p => (e.1, p)) ↔
      ∃ f, s.get? name = some f ∧ p ∈ listed f := by
  rw [List.mem_flatMap]
  constructor
  · rintro ⟨⟨name', f⟩, hf, hp⟩
    obtain ⟨p', hp', heq⟩ := List.mem_map.mp hp
    obtain ⟨rfl, rfl⟩ := Prod.mk.inj heq
    exact ⟨f, Dict.mem_toList_iff.mp hf, hp'⟩
  · rintro ⟨f, hf, hp⟩
    exact ⟨(name, f), Dict.mem_toList_iff.mpr hf, List.mem_map.mpr ⟨p, hp, rfl⟩⟩

theorem mem_declaredProbes_iff {s : Store} {name : String} {p : Probe} :
    (name, p) ∈ s.declaredProbes ↔ ∃ f, s.get? name = some f ∧ p ∈ f.paths := mem_listed_iff

theorem mem_declaredScripts_iff {s : Store} {name : String} {p : ScriptProbe} :
    (name, p) ∈ s.declaredScripts ↔ ∃ f, s.get? name = some f ∧ p ∈ f.scripts := mem_listed_iff

/-- A group holds declared probes alone. -/
theorem mem_declaredProbes_of_holds {s : Store} {g : Group} {name : String} {p : Probe} (hg : g ∈ s.groups)
    (h : g.Holds name p) : (name, p) ∈ s.declaredProbes := by
  obtain ⟨ps, hps, hp⟩ := h
  rw [technologies_of_mem_groups hg] at hps
  obtain ⟨probes, hprobes, rfl⟩ := Grouping.exists_of_mem_share hps
  rw [declaredProbes_eq]
  exact List.mem_flatMap.mpr ⟨(name, probes), hprobes, List.mem_map.mpr ⟨p, (List.mem_filter.mp hp).1, rfl⟩⟩

/-- The request of a group is the one of a probe that it holds. -/
theorem exists_first {s : Store} {g : Group} (hg : g ∈ s.groups) :
    ∃ name p, g.Holds name p ∧ g.request = p.requestOrPlain := by
  have hrequest := request_of_mem_groups hg
  obtain ⟨e, he, rfl⟩ := List.mem_map.mp hg
  rw [declaredProbes_eq] at he
  obtain ⟨hshare, hne⟩ := Grouping.eq_share_of_mem_gather s.nodup_probeBlocks he
  obtain ⟨p, hhead, -⟩ := Grouping.exists_mem_of_share hne
  rw [← hshare] at hhead
  obtain ⟨b, hb, hp⟩ := List.mem_flatMap.mp (List.mem_of_mem_head? hhead)
  have hhead' : ((Group.ofEntry e).technologies.flatMap (·.2)).head? = some p := hhead
  rw [hhead'] at hrequest
  exact ⟨b.1, p, ⟨b.2, hb, hp⟩, hrequest⟩

theorem classifies_groups (s : Store) :
    Grouping.Classifies Probe.key GroupKey.Before s.probeBlocks (s.groups.map fun g => (g.key, g.technologies)) := by
  rw [groups_eq]
  refine Grouping.classifies_gather Probe.key (fun k l => GroupKey.before_of_compare) ?_
  exact List.pairwise_map.mpr s.pairwise_toList

theorem classifies_scriptGroups (s : Store) :
    Grouping.Classifies ScriptProbe.path (fun a b => Utf8.encode a < Utf8.encode b) s.scriptBlocks
      (s.scriptGroups.map fun g => (g.path, g.technologies)) := by
  rw [scriptGroups_eq]
  refine Grouping.classifies_gather ScriptProbe.path (fun a b hlt => ?_) ?_
  · exact Utf8.encode_lt_encode_iff.mpr (compareOfLessAndEq_eq_lt.mp hlt)
  · exact List.pairwise_map.mpr s.pairwise_toList

/-- The groups of a store, of either kind, classify its probes. They are the same however the store was made: all that
counts is which fingerprint was put in last under each name. -/
theorem groups_classify (s : Store) :
    Grouping.Classifies Probe.key GroupKey.Before s.probeBlocks (s.groups.map fun g => (g.key, g.technologies)) ∧
    Grouping.Classifies ScriptProbe.path (fun a b => Utf8.encode a < Utf8.encode b) s.scriptBlocks
      (s.scriptGroups.map fun g => (g.path, g.technologies)) ∧
    ∀ es : List (String × Fingerprint), (∀ name, Dict.latest? es name = s.get? name) →
      groups (.ofList es) = s.groups ∧ scriptGroups (.ofList es) = s.scriptGroups := by
  refine ⟨s.classifies_groups, s.classifies_scriptGroups, fun es hes => ?_⟩
  rw [Dict.ofList_eq hes]
  exact ⟨rfl, rfl⟩

/-- Two technologies that ask for the start page, put in against their order and one of them twice. -/
theorem groups_classify_twice :
    let p := Probe.asking []
    let q := Probe.asking [("X-A", "1")]
    groups (.ofList [("Beta", .ofProbe p), ("Alpha", .ofProbe p), ("Beta", .ofProbe q)]) = (ofProbes p q).groups ∧
      ((ofProbes p q).groups.flatMap fun g => Grouping.declared g.technologies).Perm [("Alpha", p), ("Beta", q)] := by
  intro p q
  obtain ⟨hgroups, -, hmade⟩ := groups_classify (ofProbes p q)
  refine ⟨(hmade _ fun name => ?_).1, ?_⟩
  · by_cases halpha : "Alpha" = name
    · subst halpha
      rfl
    · by_cases hbeta : "Beta" = name
      · subst hbeta
        rfl
      · simp [Dict.latest?, ofProbes, Dict.get?, Dict.lookup, halpha, hbeta, Ne.symm halpha, Ne.symm hbeta]
  · have honce := hgroups.once
    rwa [List.flatMap_map] at honce

end Store
end SiteProbe
