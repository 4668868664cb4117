import SiteProbe.Detector
import SiteProbe.Proofs.Grouping
import SiteProbe.Proofs.Updates

/-!
# Visits of groups

A detector visits groups, one after the other, until the host proves to be unreachable (`Detector.visit`). The findings
are those of the visits (`Detector.probe_eq`):

- the technologies are what the pages of the visits show, in order (`Findings.technologies_after`);
- the failed paths are those of failed visits and of groups that are not visited, each once
  (`Findings.failedPaths_after`).
-/

namespace SiteProbe

/-- A group, and what came of asking for its page. -/
abbrev Visit := Group × Except Error Page

namespace Visit

/-- Whether a visit shows that the host cannot be reached. -/
def isFatal (v : Visit) : Bool :=
  match v.2 with
  | .ok _ => false
  | .error e => e.isFatal

/-- The group with its page, if there is one. -/
def kept? (v : Visit) : Option (Group × Page) :=
  match v.2 with
  | .ok page => some (v.1, page)
  | .error _ => none

/-- The path, if there is no page. -/
def failedPath? (v : Visit) : Option String :=
  match v.2 with
  | .ok _ => none
  | .error _ => some v.1.path

theorem kept?_of_isFatal {v : Visit} (h : v.isFatal) : v.kept? = none := by
  obtain ⟨g, answer⟩ := v
  cases answer with
  | ok page => cases h
  | error e => rfl

end Visit

/-! ## Adding once -/

/-- Put something behind the others unless it is one of them. -/
def addOnce (l : List String) (a : String) : List String := if l.contains a then l else l ++ [a]

theorem mem_foldl_addOnce {a : String} (l as : List String) : a ∈ as.foldl addOnce l ↔ a ∈ l ∨ a ∈ as := by
  induction as generalizing l with
  | nil => simp
  | cons b rest ih =>
    rw [List.foldl_cons, ih, addOnce, List.mem_cons]
    split
    · rename_i hb
      have hmem : b ∈ l := by simpa using hb
      constructor
      · exact fun h => h.imp_right .inr
      · rintro (h | rfl | h)
        · exact .inl h
        · exact .inl hmem
        · exact .inr h
    · rw [List.mem_append, List.mem_singleton, or_assoc]

theorem nodup_foldl_addOnce {l : List String} (as : List String) (h : l.Nodup) : (as.foldl addOnce l).Nodup := by
  induction as generalizing l with
  | nil => exact h
  | cons a rest ih =>
    refine ih ?_
    unfold addOnce
    split
    · exact h
    · rename_i ha
      have hnot : a ∉ l := by simpa using ha
      refine List.nodup_append.mpr ⟨h, List.pairwise_singleton _ a, fun b hb c hc hbc => ?_⟩
      obtain rfl := List.mem_singleton.mp hc
      exact hnot (hbc ▸ hb)

theorem foldl_addOnce_sublist (l as : List String) : (as.foldl addOnce l).Sublist (l ++ as) := by
  induction as generalizing l with
  | nil => simp
  | cons a rest ih =>
    refine (ih (addOnce l a)).trans ?_
    unfold addOnce
    split
    · exact (List.sublist_cons_self a rest).append_left l
    · exact List.append_cons l a rest ▸ List.Sublist.refl _

/-- What never descends, added once each, ascends. -/
theorem pairwise_foldl_addOnce {as : List String} (h : as.Pairwise fun a b => a < b ∨ a = b) :
    (as.foldl addOnce []).Pairwise (· < ·) := by
  have hsorted : (as.foldl addOnce []).Pairwise fun a b => a < b ∨ a = b := h.sublist (foldl_addOnce_sublist [] as)
  have hnodup : (as.foldl addOnce []).Pairwise (· ≠ ·) := nodup_foldl_addOnce as List.nodup_nil
  exact (hsorted.and hnodup).imp fun hab => hab.1.resolve_right hab.2

/-! ## Findings of visits -/

namespace Findings

variable {f : Findings}

/-- Take up a visit. -/
def take (f : Findings) (v : Visit) : Findings :=
  match v.2 with
  | .ok page => { f with technologies := f.technologies.updateAll (v.1.matchesOn page) }
  | .error _ => f.markFailed v.1.path

/-- Take up visits, and that the other groups were not visited. -/
def after (f : Findings) (gs : List Group) (vs : List Visit) : Findings :=
  (gs.drop vs.length).foldl (fun f g => f.markFailed g.path) (vs.foldl take f)

theorem technologies_markFailed (f : Findings) (path : String) :
    (f.markFailed path).technologies = f.technologies := by
  unfold markFailed
  split <;> rfl

theorem failedPaths_markFailed (f : Findings) (path : String) :
    (f.markFailed path).failedPaths = addOnce f.failedPaths path := by
  unfold markFailed addOnce
  split <;> rfl

/-- Groups that are not visited show nothing. -/
theorem technologies_foldl_markFailed (gs : List Group) (f : Findings) :
    (gs.foldl (fun f g => f.markFailed g.path) f).technologies = f.technologies := by
  induction gs generalizing f with
  | nil => rfl
  | cons g rest ih => exact (ih _).trans (technologies_markFailed f g.path)

theorem failedPaths_foldl_markFailed (gs : List Group) (f : Findings) :
    (gs.foldl (fun f g => f.markFailed g.path) f).failedPaths = (gs.map (·.path)).foldl addOnce f.failedPaths := by
  induction gs generalizing f with
  | nil => rfl
  | cons g rest ih => rw [List.foldl_cons, ih, failedPaths_markFailed, List.map_cons, List.foldl_cons]

/-- The technologies are what the pages show, in order. -/
theorem technologies_foldl_take (vs : List Visit) (f : Findings) : (vs.foldl take f).technologies =
    f.technologies.updateAll ((vs.filterMap Visit.kept?).flatMap fun k => k.1.matchesOn k.2) := by
  induction vs generalizing f with
  | nil => rfl
  | cons v rest ih =>
    obtain ⟨g, answer⟩ := v
    rw [List.foldl_cons, ih]
    cases answer with
    | ok page => exact (Detections.updateAll_append _ _ _).symm
    | error e => exact congrArg (Detections.updateAll · _) (technologies_markFailed f g.path)

/-- The failed paths are those of failed visits. -/
theorem failedPaths_foldl_take (vs : List Visit) (f : Findings) :
    (vs.foldl take f).failedPaths = (vs.filterMap Visit.failedPath?).foldl addOnce f.failedPaths := by
  induction vs generalizing f with
  | nil => rfl
  | cons v rest ih =>
    obtain ⟨g, answer⟩ := v
    rw [List.foldl_cons, ih]
    cases answer with
    | ok page => rfl
    | error e =>
      exact congrArg (List.foldl addOnce · (rest.filterMap Visit.failedPath?)) (failedPaths_markFailed f g.path)

theorem technologies_after (f : Findings) (gs : List Group) (vs : List Visit) : (f.after gs vs).technologies =
    f.technologies.updateAll ((vs.filterMap Visit.kept?).flatMap fun k => k.1.matchesOn k.2) := by
  rw [after, technologies_foldl_markFailed, technologies_foldl_take]

theorem failedPaths_after (f : Findings) (gs : List Group) (vs : List Visit) : (f.after gs vs).failedPaths =
    (vs.filterMap Visit.failedPath? ++ (gs.drop vs.length).map (·.path)).foldl addOnce f.failedPaths := by
  rw [after, failedPaths_foldl_markFailed, failedPaths_foldl_take, List.foldl_append]

end Findings

namespace Detector

variable {m : Type → Type} [Monad m]

/-- Visit groups, one after the other, until the host proves to be unreachable. -/
def visit (d : Detector) (w : World m) (target : String) : List Group → m (List Visit)
  | [] => return []
  | g :: rest => do
    let answer ← d.fetchGroup w target g
    if Visit.isFatal (g, answer) then return [(g, answer)]
    else return (g, answer) :: (← d.visit w target rest)

/-- What is found comes from the visits, and from the groups that are not visited. -/
theorem probe_eq [LawfulMonad m] (d : Detector) (w : World m) (target : String) (gs : List Group) (f : Findings) :
    d.probe w target f gs = f.after gs <$> d.visit w target gs := by
  induction gs generalizing f with
  | nil => rw [probe, visit, map_pure]; rfl
  | cons g rest ih =>
    rw [probe, visit, map_bind]
    congr 1
    funext answer
    cases answer with
    | ok page =>
      simp only [Visit.isFatal, Bool.false_eq_true, if_false, ih, bind_pure_comp, Functor.map_map]
      rfl
    | error e =>
      by_cases hfatal : e.isFatal = true
      · simp only [Visit.isFatal, hfatal, if_true, map_pure]
        rfl
      · simp only [Visit.isFatal, hfatal, Bool.false_eq_true, if_false, ih, bind_pure_comp, Functor.map_map]
        rfl

end Detector
end SiteProbe
