import Mathlib.Data.List.Pairwise
import SiteProbe.Proofs.Calls
import SiteProbe.Proofs.Classification
import SiteProbe.Proofs.Segments
import SiteProbe.Proofs.SharedRequests

/-!
# Requests that are sent again

If all calls of a detection succeed, there is one for each group (`Detector.IsCourse.map_calls_eq`), so that a request
is sent twice where two groups ask for the same. They can do so in two spellings: with and without the slash at the
front of the path, and with header fields whose names are in another order in small letters. These are the only ones
(`Detector.detect_repeats`).
-/

namespace SiteProbe

/-! ## Requests -/

namespace Request

variable {r r' : Request}

/-- Requests ask for the same: by the same method, the same header fields in whatever order, their names in whatever
case, and the same body. -/
structure Equivalent (r r' : Request) : Prop extends SameBody r r' where
  method : r.methodName = r'.methodName
  fields : r.fields.Perm r'.fields

theorem Equivalent.symm (h : r.Equivalent r') : r'.Equivalent r where
  sent := h.sent.symm
  isText := h.isText.symm
  method := h.method.symm
  fields := h.fields.symm

/-- The same body has the same text in a shape. -/
theorem SameBody.bodyText_eq (h : r.SameBody r') : r.bodyText = r'.bodyText := by
  by_cases htext : ∃ s, r.body = some (.string s)
  · obtain ⟨s, hs⟩ := htext
    obtain ⟨s', hs'⟩ := h.isText.mp ⟨s, hs⟩
    have hsent := h.sent
    rw [Message.bodyOf, Message.bodyOf, hs, hs'] at hsent
    rw [(body_eq_string_iff r s).mp hs, (body_eq_string_iff r' s').mp hs', Option.some.inj hsent]
  · have hplain (r : Request) (hr : ¬∃ s, r.body = some (.string s)) (s : String) : r.bodyText ≠ Json.quote s :=
      fun hquote => hr ⟨s, (body_eq_string_iff r s).mpr hquote⟩
    have hsent := h.sent
    rw [bodyOf_eq r (hplain r htext), bodyOf_eq r' (hplain r' (mt h.isText.mpr htext))] at hsent
    by_cases hempty : r.bodyText = "" <;> by_cases hempty' : r'.bodyText = "" <;> simp_all

/-- Requests that ask for the same have one shape if their header fields come in the same order. -/
theorem Equivalent.shapeKey_eq (h : r.Equivalent r') (hfields : r.fields = r'.fields) : r.shapeKey = r'.shapeKey := by
  rw [Request.shapeKey_eq, Request.shapeKey_eq, h.method, hfields, h.toSameBody.bodyText_eq]

/-- Header fields whose names ascend come in one order only. -/
theorem fields_eq_of_perm (h : r.fields.Perm r'.fields) (hr : r.fields.Pairwise fun a b => a.1 < b.1)
    (hr' : r'.fields.Pairwise fun a b => a.1 < b.1) : r.fields = r'.fields :=
  h.eq_of_pairwise (fun _ _ _ _ hab hba => absurd (Std.lt_trans hab hba) (String.lt_irrefl _)) hr hr'

end Request

/-! ## Groups -/

namespace Group

/-- Groups ask for the same at the same address. -/
def AsksLike (g h : Group) : Prop := Url.rooted g.path = Url.rooted h.path ∧ g.request.Equivalent h.request

theorem AsksLike.symm {g h : Group} (hlike : g.AsksLike h) : h.AsksLike g := ⟨hlike.1.symm, hlike.2.symm⟩

end Group

namespace Store

variable {s : Store} {g h : Group}

/-- What groups ask for alike they spell alike: the path, and the header fields in order. -/
def SpelledOnce (s : Store) : Prop := ∀ g ∈ s.groups, ∀ h ∈ s.groups, g.AsksLike h →
  g.path = h.path ∧ g.request.fields = h.request.fields

/-- Groups ask for different things if and only if they spell alike what they ask for alike. -/
theorem pairwise_groups_iff : (s.groups.Pairwise fun g h => ¬g.AsksLike h) ↔ s.SpelledOnce := by
  constructor
  · intro hdistinct g hg h hh hlike
    by_cases heq : g = h
    · rw [heq]
      exact ⟨rfl, rfl⟩
    · have hsymm : Std.Symm fun g h : Group => ¬g.AsksLike h := ⟨fun g h hnot hlike => hnot hlike.symm⟩
      exact absurd hlike (hdistinct.forall hg hh heq)
  · intro hspelled
    refine s.pairwise_groups.imp_of_mem fun {g h} hg hh hlt hlike => ?_
    obtain ⟨hpath, hfields⟩ := hspelled g hg h hh hlike
    have hkey : g.key = h.key := by
      unfold Group.key
      rw [hpath, hlike.2.shapeKey_eq hfields]
    rw [hkey] at hlt
    simp at hlt

/-- It is so if all paths have a slash at their front and all names of header fields ascend in small letters. -/
theorem spelledOnce_of_declared (h : ∀ d ∈ s.declaredProbes, Url.rooted d.2.path = d.2.path ∧
    d.2.requestOrPlain.fields.Pairwise fun a b => a.1 < b.1) : s.SpelledOnce := by
  have hgroup (g : Group) (hg : g ∈ s.groups) :
      Url.rooted g.path = g.path ∧ g.request.fields.Pairwise fun a b => a.1 < b.1 := by
    obtain ⟨name, p, hholds, hrequest⟩ := exists_first hg
    have hpath : p.path = g.path := congrArg GroupKey.path (key_of_holds hg hholds)
    have hp := h (name, p) (mem_declaredProbes_of_holds hg hholds)
    rwa [hrequest, ← hpath]
  intro g hg h hh hlike
  rw [← (hgroup g hg).1, ← (hgroup h hh).1]
  exact ⟨hlike.1, Request.fields_eq_of_perm hlike.2.fields (hgroup g hg).2 (hgroup h hh).2⟩

end Store

/-! ## Runs -/

namespace Call

/-- Calls are for the same at the same URL. -/
def Repeats (c c' : Call) : Prop := c.url = c'.url ∧ c.request.Equivalent c'.request

theorem exists_page {c : Call} (h : c.answer.toBool = true) : ∃ page, c.answer = .ok page := by
  cases hanswer : c.answer with
  | ok page => exact ⟨page, rfl⟩
  | error e =>
    rw [hanswer] at h
    cases h

end Call

namespace Detector

variable {σ : Type} {d : Detector} {target : String} {gs skipped : List Group} {rounds : List Round}

/-- If all calls succeed, none is retried and no group is skipped: there is one call for each group. -/
theorem IsCourse.map_calls_eq (h : d.IsCourse target gs rounds skipped)
    (hcalls : ∀ c ∈ rounds.flatMap Round.calls, ∃ page, c.answer = .ok page) :
    (rounds.flatMap Round.calls).map (fun c => (c.url, c.request)) =
      gs.map fun g => (Url.probeAddress target g.path, g.request) := by
  have hlast : ∀ r ∈ rounds, ¬r.Failed := by
    rintro r hr ⟨e, he⟩
    obtain ⟨page, hpage⟩ := hcalls r.last (List.mem_flatMap.mpr ⟨r, hr, by simp [Round.calls]⟩)
    rw [he] at hpage
    cases hpage
  have hskipped : skipped = [] := by
    refine Classical.byContradiction fun hne => ?_
    obtain ⟨r, hr, e, he, -⟩ := h.stopped hne
    exact hlast r (List.mem_of_getLast? hr) ⟨e, he⟩
  have hround : ∀ r ∈ rounds, r.calls.map (fun c => (c.url, c.request)) =
      [(Url.probeAddress target r.group.path, r.group.request)] := by
    intro r hr
    have hretried : r.retried = [] := by
      refine List.eq_nil_iff_forall_not_mem.mpr fun c hc => ?_
      obtain ⟨e, he⟩ := (h.round r hr).retried c hc
      obtain ⟨page, hpage⟩ := hcalls c (List.mem_flatMap.mpr ⟨r, hr, by simp [Round.calls, hc]⟩)
      rw [he] at hpage
      cases hpage
    obtain ⟨hurl, hrequest⟩ := (h.round r hr).same r.last (by simp [Round.calls])
    simp [Round.calls, hretried, hurl, hrequest]
  rw [h.groups, hskipped, List.append_nil, List.map_map, List.map_flatMap, List.flatMap_congr hround]
  exact List.flatMap_pure_eq_map _ _

/-- In a detection all of whose calls succeed there is one call for each group of the store. Nothing is asked for twice
if and only if the groups spell alike what they ask for alike, which they do if all declared paths have a slash at their
front and all declared names of header fields ascend in small letters. A URL that is not accepted is not called at
all. -/
theorem detect_repeats (d : Detector) (w : World (StateM σ)) (augmenter : Option (Augmenter (StateM σ))) (url : String)
    (s : σ) :
    ((¬∃ target, Url.parse url = .ok target ∧ target.isHttp) → ∃ e,
      ((d.detect w.noting (augmenter.map Augmenter.silently) url).run []).run s = ((.error e, []), s)) ∧
    ∀ target, Url.parse url = .ok target → target.isHttp → ∃ f calls s',
      ((d.detect w.noting (augmenter.map Augmenter.silently) url).run []).run s = ((.ok f, calls), s') ∧
      ((∀ c ∈ calls, ∃ page, c.answer = .ok page) →
        (calls.map fun c => (c.url, c.request)) =
          d.store.groups.map (fun g => (Url.probeAddress url g.path, g.request)) ∧
        ((calls.Pairwise fun c c' => ¬c.Repeats c') ↔ d.store.SpelledOnce) ∧
        ((∀ e ∈ d.store.declaredProbes, Url.rooted e.2.path = e.2.path ∧
          e.2.requestOrPlain.fields.Pairwise fun a b => a.1 < b.1) → calls.Pairwise fun c c' => ¬c.Repeats c')) := by
  constructor
  · intro hnot
    obtain ⟨e, he⟩ := exists_error_of_not_accepted (m := Logged Call σ) hnot
    refine ⟨e, ?_⟩
    rw [he]
    rfl
  intro target hurl hhttp
  obtain ⟨f, rounds, skipped, s', hrun, hcourse, -, -⟩ := runs_detect d w augmenter hurl hhttp s
  refine ⟨f, rounds.flatMap Round.calls, s', hrun.run_nil, fun hcalls => ?_⟩
  have hmap := hcourse.map_calls_eq hcalls
  have hiff : ((rounds.flatMap Round.calls).Pairwise fun c c' => ¬c.Repeats c') ↔ d.store.SpelledOnce := by
    have hpairs := List.pairwise_map (R := fun a b : String × Request => ¬(a.1 = b.1 ∧ a.2.Equivalent b.2))
      (f := fun c : Call => (c.url, c.request)) (l := rounds.flatMap Round.calls)
    rw [hmap, List.pairwise_map] at hpairs
    rw [← Store.pairwise_groups_iff]
    simp only [Url.probeAddress_eq_iff] at hpairs
    exact hpairs.symm
  exact ⟨hmap, hiff, fun hdeclared => hiff.mpr (Store.spelledOnce_of_declared hdeclared)⟩

/-- The two paths of this detector are asked for once each. -/
theorem detect_repeats_twoPaths : ∃ f calls s',
    ((twoPaths.detect lateWorld.noting none "http://a.test/").run []).run 1 = ((.ok f, calls), s') ∧
      (calls.map fun c => (c.url, c.answer.toBool)) = [("http://a.test/", true), ("http://a.test/v", true)] ∧
        calls.Pairwise fun c c' => ¬c.Repeats c' := by
  obtain ⟨-, haccepted⟩ := detect_repeats twoPaths lateWorld none "http://a.test/" 1
  obtain ⟨f, calls, s', hrun, hcalls⟩ := haccepted _ Url.parse_sampleRoot (by decide)
  have hanswers : ((((twoPaths.detect lateWorld.noting none "http://a.test/").run []).run 1).1.2.map fun c =>
      (c.url, c.answer.toBool)) = [("http://a.test/", true), ("http://a.test/v", true)] := by
    decide +kernel
  rw [Option.map_none] at hrun
  rw [hrun] at hanswers
  have hsucceed : ∀ c ∈ calls, ∃ page, c.answer = .ok page := by
    intro c hc
    have hmem := List.mem_map_of_mem (f := fun c : Call => (c.url, c.answer.toBool)) hc
    rw [hanswers] at hmem
    exact Call.exists_page (by rcases List.mem_pair.mp hmem with h | h <;> exact (Prod.mk.inj h).2)
  obtain ⟨-, -, honce⟩ := hcalls hsucceed
  exact ⟨f, calls, s', hrun, hanswers, honce (by decide +kernel)⟩

/-- A detector that looks for one page in two spellings of its path. -/
def twoSpellings : Detector where
  store := .ofProbes ⟨"admin", none, .never, []⟩ ⟨"/admin", none, .never, []⟩
  config := .standard

/-- Both calls succeed, and the second one is for the same as the first one. -/
theorem detect_repeats_twoSpellings : ∃ f c c' s',
    ((twoSpellings.detect lateWorld.noting none "http://a.test/").run []).run 1 = ((.ok f, [c, c']), s') ∧
      (∃ page, c.answer = .ok page) ∧ (∃ page, c'.answer = .ok page) ∧ c.Repeats c' := by
  have hurls : ((((twoSpellings.detect lateWorld.noting none "http://a.test/").run []).run 1).1.2.map fun c =>
      (c.url, c.answer.toBool)) = .replicate 2 ("http://a.test/admin", true) := by
    decide +kernel
  have hrequests : ((((twoSpellings.detect lateWorld.noting none "http://a.test/").run []).run 1).1.2.map fun c =>
      (c.request.methodName, c.request.fields, c.request.bodyText)) = .replicate 2 ("GET", [], "") := by
    decide +kernel
  obtain ⟨f, rounds, -, s', hruns, -⟩ := runs_detect twoSpellings lateWorld none Url.parse_sampleRoot (by decide) 1
  have hrun := hruns.run_nil
  rw [Option.map_none] at hrun
  rw [hrun] at hurls hrequests
  obtain ⟨c, c', hcalls⟩ : ∃ c c', rounds.flatMap Round.calls = [c, c'] :=
    List.length_eq_two.mp ((List.length_map _).symm.trans (congrArg List.length hurls))
  rw [hcalls] at hrun hurls hrequests
  simp only [List.map_cons, List.map_nil, List.replicate_succ, List.replicate_zero, List.cons.injEq, Prod.mk.injEq,
    and_true] at hurls hrequests
  obtain ⟨⟨hurl, hpage⟩, hurl', hpage'⟩ := hurls
  obtain ⟨⟨hmethod, hfields, hbody⟩, hmethod', hfields', hbody'⟩ := hrequests
  refine ⟨f, c, c', s', hrun, Call.exists_page hpage, Call.exists_page hpage', hurl.trans hurl'.symm, ?_⟩
  exact ⟨Request.sameBody_of_bodyText_eq (hbody.trans hbody'.symm), hmethod.trans hmethod'.symm,
    .of_eq (hfields.trans hfields'.symm)⟩

end Detector
end SiteProbe
