import SiteProbe.Proofs.Grouping
import SiteProbe.Proofs.Shapes

/-!
# Requests that stand for several probes

Every probe of a store is in a group, and the page it is judged by is asked for at its own path with its own body. The
method and the header fields are its own, too, if no separator stands in them (`Store.groups_share`). Otherwise they
need not be (`Store.groups_share_mixed`): an `&` within a value looks like the one between two header fields.
-/

namespace SiteProbe

/-- A group holds a probe of a technology. -/
def Group.Holds (g : Group) (name : String) (p : Probe) : Prop := ∃ ps, (name, ps) ∈ g.technologies ∧ p ∈ ps

namespace Store

variable {s : Store} {g : Group} {name : String} {f : Fingerprint} {p q : Probe}

/-- A group holds probes with its key alone. -/
theorem key_of_holds (hg : g ∈ s.groups) (h : g.Holds name p) : p.key = g.key := by
  obtain ⟨ps, hps, hp⟩ := h
  rw [technologies_of_mem_groups hg] at hps
  exact Grouping.key_eq_of_mem_share hps p hp

/-- The request of a group is the one of its first probe. -/
theorem request_of_mem_groups (hg : g ∈ s.groups) :
    g.request = ((g.technologies.flatMap (·.2)).head?.map (·.requestOrPlain)).getD .plain := by
  obtain ⟨e, -, rfl⟩ := List.mem_map.mp hg
  rfl

/-- Every probe of a store is in a group. -/
theorem exists_group (hf : s.get? name = some f) (hp : p ∈ f.paths) : ∃ g ∈ s.groups, g.Holds name p := by
  have hblock : (name, f.paths) ∈ s.probeBlocks := List.mem_map.mpr ⟨(name, f), Dict.mem_toList_iff.mpr hf, rfl⟩
  have hkept : p ∈ f.paths.filter fun q => q.key = p.key := List.mem_filter.mpr ⟨hp, by simp⟩
  have hshare : (name, f.paths.filter fun q => q.key = p.key) ∈ Grouping.share Probe.key p.key s.probeBlocks := by
    refine List.mem_filter.mpr ⟨List.mem_map.mpr ⟨_, hblock, rfl⟩, ?_⟩
    simpa using ⟨p, hp, rfl⟩
  have hget : (Grouping.gather Probe.key s.declaredProbes).get? p.key =
      some (Grouping.share Probe.key p.key s.probeBlocks) := by
    rw [declaredProbes_eq, Grouping.get?_gather Probe.key p.key s.nodup_probeBlocks,
      if_neg (List.ne_nil_of_mem hshare)]
  exact ⟨_, List.mem_map.mpr ⟨_, Dict.mem_toList_iff.mpr hget, rfl⟩, _, hshare, hkept⟩

/-- The request of a group stands for those of all its probes. -/
theorem groups_share (s : Store) :
    (∀ r r' : Request, r.shapeKey = r'.shapeKey → r.StandsFor r') ∧
    ∀ name f p, s.get? name = some f → p ∈ f.paths → (∃ g ∈ s.groups, g.Holds name p) ∧
      ∀ g ∈ s.groups, g.Holds name p → g.path = p.path ∧ g.request.StandsFor p.requestOrPlain := by
  refine ⟨fun r r' => Request.standsFor_of_shapeKey_eq, fun name f p hf hp => ⟨exists_group hf hp, ?_⟩⟩
  intro g hg hholds
  have hkey := (key_of_holds hg hholds).symm
  exact ⟨congrArg GroupKey.path hkey, Request.standsFor_of_shapeKey_eq (congrArg GroupKey.shape hkey)⟩

end Store

/-! ## Stores of two probes -/

/-- A fingerprint with one probe and nothing else. -/
def Fingerprint.ofProbe (p : Probe) : Fingerprint := ⟨[], [], [p], [], none, none, none, none⟩

namespace Probe

/-- A probe of the start page by a request with header fields. -/
def asking (headers : List (String × String)) : Probe := ⟨"/", some ⟨none, .ofList headers, none⟩, .never, []⟩

/-- Such probes have one key if their header fields have one text. -/
theorem key_asking {headers headers' : List (String × String)}
    (h : Request.fieldsText (asking headers).requestOrPlain.fields =
      Request.fieldsText (asking headers').requestOrPlain.fields) :
    (asking headers).key = (asking headers').key := by
  unfold Probe.key
  rw [Request.shapeKey_eq, Request.shapeKey_eq, h]
  rfl

end Probe

namespace Store

/-- A store of two technologies with a probe each. -/
def ofProbes (p q : Probe) : Store where
  entries := [("Alpha", Fingerprint.ofProbe p), ("Beta", Fingerprint.ofProbe q)]
  sorted := List.pairwise_pair.mpr (show compare "Alpha" "Beta" = .lt by decide)

theorem get?_ofProbes (p q : Probe) : (ofProbes p q).get? "Beta" = some (Fingerprint.ofProbe q) :=
  Dict.mem_toList_iff.mp (.tail _ List.mem_cons_self)

/-- If the probes have one key, the first one gives the request for both. -/
theorem exists_group_ofProbes (h : p.key = q.key) :
    ∃ g ∈ (ofProbes p q).groups, g.request = p.requestOrPlain ∧ g.Holds "Beta" q := by
  obtain ⟨g, hg, hholds⟩ := exists_group (get?_ofProbes p q) List.mem_cons_self
  refine ⟨g, hg, ?_, hholds⟩
  have hblocks : (ofProbes p q).probeBlocks = [("Alpha", [p]), ("Beta", [q])] := rfl
  rw [request_of_mem_groups hg, technologies_of_mem_groups hg, ← key_of_holds hg hholds, hblocks]
  simp [Grouping.share, h]

/-- The request of one probe stands for the one of another that spells the name of a header field in another way. -/
theorem groups_share_spelled : ∃ g ∈ (ofProbes (Probe.asking [("X-A", "1")]) (Probe.asking [("x-a", "1")])).groups,
    g.Holds "Beta" (Probe.asking [("x-a", "1")]) ∧ g.path = "/" ∧
      g.request.Alike (Probe.asking [("x-a", "1")]).requestOrPlain := by
  have hcapital : (Probe.asking [("X-A", "1")]).requestOrPlain.fields = [("x-a", "1")] := by
    have hlower : Unicode.Case.lower "X-A" = "x-a" :=
      String.toList_inj.mp ((Unicode.Case.toList_lower (by decide)).trans (by decide))
    exact congrArg (fun name => [(name, "1")]) hlower
  have hsmall : (Probe.asking [("x-a", "1")]).requestOrPlain.fields = [("x-a", "1")] := by
    have hlower : Unicode.Case.lower "x-a" = "x-a" :=
      String.toList_inj.mp ((Unicode.Case.toList_lower (by decide)).trans (by decide))
    exact congrArg (fun name => [(name, "1")]) hlower
  have hseparable {headers : List (String × String)}
      (h : (Probe.asking headers).requestOrPlain.fields = [("x-a", "1")]) :
      (Probe.asking headers).requestOrPlain.Separable := by
    refine ⟨?_, show ' ' ∉ "GET".toList by decide⟩
    rw [h]
    exact ⟨by decide, by decide⟩
  have hkey : (Probe.asking [("X-A", "1")]).key = (Probe.asking [("x-a", "1")]).key :=
    Probe.key_asking (by rw [hcapital, hsmall])
  obtain ⟨g, hg, hrequest, hholds⟩ := exists_group_ofProbes hkey
  obtain ⟨-, hprobes⟩ := groups_share (ofProbes (Probe.asking [("X-A", "1")]) (Probe.asking [("x-a", "1")]))
  obtain ⟨-, hgroups⟩ := hprobes "Beta" _ _ (get?_ofProbes _ _) List.mem_cons_self
  obtain ⟨hpath, hstands⟩ := hgroups g hg hholds
  exact ⟨g, hg, hholds, hpath, hstands.alike (hrequest ▸ hseparable hcapital) (hseparable hsmall)⟩

/-- Two header fields of one request, and one field of another, whose value looks like both of them. -/
theorem groups_share_mixed :
    ∃ g ∈ (ofProbes (Probe.asking [("a", "1&b=2")]) (Probe.asking [("a", "1"), ("b", "2")])).groups,
      g.Holds "Beta" (Probe.asking [("a", "1"), ("b", "2")]) ∧
        ¬g.request.Alike (Probe.asking [("a", "1"), ("b", "2")]).requestOrPlain := by
  have hlower : Unicode.Case.lower "b" = "b" :=
    String.toList_inj.mp ((Unicode.Case.toList_lower (by decide)).trans (by decide))
  have hkey : (Probe.asking [("a", "1&b=2")]).key = (Probe.asking [("a", "1"), ("b", "2")]).key := by
    refine Probe.key_asking ?_
    show Request.fieldsText [(Unicode.Case.lower "a", "1&b=2")] =
      Request.fieldsText [(Unicode.Case.lower "a", "1"), (Unicode.Case.lower "b", "2")]
    rw [hlower, ← String.toList_inj]
    simp [Request.fieldsText]
  obtain ⟨g, hg, hrequest, hholds⟩ := exists_group_ofProbes hkey
  refine ⟨g, hg, hholds, fun halike => ?_⟩
  have hlength := congrArg List.length halike.fields
  rw [hrequest] at hlength
  revert hlength
  decide

end Store
end SiteProbe
