import SiteProbe.Proofs.Attempts
import SiteProbe.Proofs.ByteOrder
import SiteProbe.Proofs.Host
import SiteProbe.Proofs.Visits

/-!
# Rounds of calls

What a detector asks of its fetcher: each group that is visited has a round of calls, all of them for the one page of
the group, until one succeeds or no retry is left (`IsRound`). The rounds are those of the groups in order, up to the
first one that ends with a host that cannot be reached (`IsCourse`), whatever the fetcher answers (`runs_visit`).
-/

namespace SiteProbe

variable {σ : Type}

/-- The calls for the page of a group: those that were retried, and the last one. -/
structure Round where
  group : Group
  retried : List Call
  last : Call

namespace Round

variable {r : Round}

/-- All calls of a round, in order. -/
def calls (r : Round) : List Call := r.retried ++ [r.last]

/-- A round fails if its last call does. -/
def Failed (r : Round) : Prop := ∃ e, r.last.answer = .error e

/-- A round is fatal if its last call says that the host cannot be reached. -/
def Fatal (r : Round) : Prop := ∃ e, r.last.answer = .error e ∧ e.isFatal

/-- What the page of a round shows, if there is one. -/
def shows (r : Round) : List (String × String) :=
  match r.last.answer with
  | .ok page => r.group.matchesOn page
  | .error _ => []

/-- What the pages of rounds show together. -/
def shown (rounds : List Round) : Detections := Detections.updateAll .empty (rounds.flatMap shows)

/-- The visit that a round makes. -/
def visit (retries : UInt32) (r : Round) : Visit := (r.group, finalResult retries r.last.answer)

theorem isFatal_visit (retries : UInt32) : (r.visit retries).isFatal = true ↔ r.Fatal := by
  obtain ⟨g, retried, ⟨url, request, answer⟩⟩ := r
  cases answer with
  | ok page =>
    refine ⟨fun h => (by cases h), ?_⟩
    rintro ⟨e, he, -⟩
    cases he
  | error e =>
    refine ⟨fun h => ⟨e, rfl, h⟩, ?_⟩
    rintro ⟨e', he', hfatal⟩
    cases he'
    exact hfatal

theorem failedPath?_visit (retries : UInt32) {path : String} :
    (r.visit retries).failedPath? = some path ↔ r.Failed ∧ r.group.path = path := by
  obtain ⟨g, retried, ⟨url, request, answer⟩⟩ := r
  cases answer with
  | ok page =>
    refine ⟨fun h => (by cases h), ?_⟩
    rintro ⟨⟨e, he⟩, -⟩
    cases he
  | error e =>
    refine ⟨fun h => ⟨⟨e, rfl⟩, Option.some.inj h⟩, ?_⟩
    rintro ⟨-, rfl⟩
    rfl

/-- The pages of the visits show what the rounds show. -/
theorem flatMap_kept?_visit (retries : UInt32) (rounds : List Round) :
    ((rounds.map (visit retries)).filterMap Visit.kept?).flatMap (fun k => k.1.matchesOn k.2) =
      rounds.flatMap shows := by
  induction rounds with
  | nil => rfl
  | cons r rest ih =>
    obtain ⟨g, retried, ⟨url, request, answer⟩⟩ := r
    rw [List.flatMap_cons, ← ih]
    cases answer <;> rfl

end Round

namespace Detector

/-- A round is as the retry policy says: all calls ask for the page of the group, all fail but the last one, and if that
one fails too, no retry is left. -/
structure IsRound (d : Detector) (target : String) (r : Round) : Prop where
  length : 1 ≤ r.calls.length ∧ r.calls.length ≤ d.config.retry.maxRetries.toNat + 1
  same : ∀ c ∈ r.calls, c.url = Url.probeAddress target r.group.path ∧ c.request = r.group.request
  retried : ∀ c ∈ r.retried, ∃ e, c.answer = .error e
  exhausted : r.Failed → r.calls.length = d.config.retry.maxRetries.toNat + 1

/-- Rounds go through groups in order, up to the first one that is fatal; all groups behind it are skipped. -/
structure IsCourse (d : Detector) (target : String) (gs : List Group) (rounds : List Round) (skipped : List Group) :
    Prop where
  groups : gs = rounds.map (·.group) ++ skipped
  round : ∀ r ∈ rounds, d.IsRound target r
  onward : ∀ r ∈ rounds.dropLast, ¬r.Fatal
  stopped : skipped ≠ [] → ∃ r, rounds.getLast? = some r ∧ r.Fatal

variable {d : Detector} {target : String} {g : Group} {gs skipped : List Group} {r : Round} {rounds : List Round}

namespace IsCourse

theorem nil : d.IsCourse target [] [] [] where
  groups := rfl
  round _ h := by cases h
  onward _ h := by cases h
  stopped h := absurd rfl h

/-- After a fatal round all other groups are skipped. -/
theorem fatal (hr : d.IsRound target r) (hfatal : r.Fatal) (gs : List Group) :
    d.IsCourse target (r.group :: gs) [r] gs where
  groups := rfl
  round r' h := by
    obtain rfl := List.mem_singleton.mp h
    exact hr
  onward _ h := by cases h
  stopped _ := ⟨r, rfl, hfatal⟩

/-- After any other round the next group has its turn. -/
theorem cons (hr : d.IsRound target r) (hgo : ¬r.Fatal) (h : d.IsCourse target gs rounds skipped) :
    d.IsCourse target (r.group :: gs) (r :: rounds) skipped where
  groups := by rw [h.groups, List.map_cons, List.cons_append]
  round r' hr' := by
    rcases List.mem_cons.mp hr' with rfl | hr'
    · exact hr
    · exact h.round r' hr'
  onward r' hr' := by
    cases rounds with
    | nil => cases hr'
    | cons next rest =>
      rcases List.mem_cons.mp hr' with rfl | hr'
      · exact hgo
      · exact h.onward r' hr'
  stopped hne := by
    obtain ⟨last, hlast, hfatal⟩ := h.stopped hne
    refine ⟨last, ?_, hfatal⟩
    rw [List.getLast?_cons_of_ne_nil (fun hnil => by rw [hnil] at hlast; cases hlast), hlast]

end IsCourse

/-! ## Runs -/

/-- An attempt that makes one call. -/
def IsCall (P : Call → Prop) (a : Attempt Call Page) : Prop := ∃ c, a = ⟨[c], c.answer⟩ ∧ P c

/-- Attempts that make one call each note these calls. -/
theorem exists_calls {P : Call → Prop} {as : List (Attempt Call Page)} (h : ∀ a ∈ as, IsCall P a) :
    ∃ cs : List Call, as = cs.map (fun c => ⟨[c], c.answer⟩) ∧ as.flatMap (·.notes) = cs ∧ ∀ c ∈ cs, P c := by
  induction as with
  | nil => exact ⟨[], rfl, rfl, fun c hc => by cases hc⟩
  | cons a rest ih =>
    obtain ⟨c, rfl, hc⟩ := h a List.mem_cons_self
    obtain ⟨cs, rfl, hnotes, hcs⟩ := ih fun a ha => h a (List.mem_cons_of_mem _ ha)
    refine ⟨c :: cs, rfl, ?_, ?_⟩
    · rw [List.flatMap_cons, hnotes]
      rfl
    · intro c' hc'
      rcases List.mem_cons.mp hc' with rfl | hc'
      · exact hc
      · exact hcs c' hc'

/-- Fetching the page of a group makes a round of calls. -/
theorem runs_fetchGroup (d : Detector) (w : World (StateM σ)) (target : String) (g : Group) (s : σ) :
    ∃ r s', Runs (d.fetchGroup w.noting target g) s r.calls (finalResult d.config.retry.maxRetries r.last.answer) s' ∧
      r.group = g ∧ d.IsRound target r := by
  have hcall (_ : UInt32) (s : σ) : ∃ t a s',
      Runs (w.noting.fetch (Url.probeAddress target g.path) g.request) s t a s' ∧
        IsCall (fun c => c.url = Url.probeAddress target g.path ∧ c.request = g.request) ⟨t, a⟩ :=
    ⟨_, _, _, Runs.noting _ _ s, _, rfl, rfl, rfl⟩
  obtain ⟨as, last, s', hrun, has, hlast, hall⟩ := runs_retry d.config.retry w.pause hcall s
  obtain ⟨cs, rfl, hnotes, hcs⟩ := exists_calls hall
  rw [hnotes] at hrun
  rw [List.getLast?_map] at hlast
  obtain ⟨c, hc, rfl⟩ := Option.map_eq_some_iff.mp hlast
  obtain ⟨retried, rfl⟩ := List.getLast?_eq_some_iff.mp hc
  refine ⟨⟨g, retried, c⟩, s', hrun, rfl, ?_, hcs, ?_, ?_⟩
  · have hpos := has.length_pos
    have hle := has.length_le
    rw [List.length_map] at hpos hle
    exact ⟨hpos, hle⟩
  · intro c' hc'
    refine has.failed_of_mem_dropLast ⟨[c'], c'.answer⟩ ?_
    rw [← List.map_dropLast, List.dropLast_concat]
    exact List.mem_map_of_mem hc'
  · rintro ⟨e, he⟩
    have hlength := has.length_eq_of_failed ⟨[c], c.answer⟩ (by simp) e he
    rw [List.length_map] at hlength
    exact hlength

/-- Visiting groups makes rounds of calls in their order, up to a fatal one. -/
theorem runs_visit (d : Detector) (w : World (StateM σ)) (target : String) (gs : List Group) (s : σ) :
    ∃ rounds skipped s', Runs (d.visit w.noting target gs) s (rounds.flatMap Round.calls)
      (rounds.map (Round.visit d.config.retry.maxRetries)) s' ∧ d.IsCourse target gs rounds skipped := by
  induction gs generalizing s with
  | nil => exact ⟨[], [], s, Runs.pure [] s, .nil⟩
  | cons g rest ih =>
    obtain ⟨r, s', hrun, rfl, hround⟩ := runs_fetchGroup d w target g s
    have hvisit : Visit.isFatal (r.group, finalResult d.config.retry.maxRetries r.last.answer) = true ↔ r.Fatal :=
      Round.isFatal_visit d.config.retry.maxRetries
    by_cases hfatal : r.Fatal
    · refine ⟨[r], rest, s', ?_, .fatal hround hfatal rest⟩
      rw [visit, List.flatMap_cons]
      refine hrun.bind ?_
      rw [if_pos (hvisit.mpr hfatal)]
      exact Runs.pure _ s'
    · obtain ⟨rounds, skipped, s'', hrest, hcourse⟩ := ih s'
      refine ⟨r :: rounds, skipped, s'', ?_, .cons hround hfatal hcourse⟩
      rw [visit, List.flatMap_cons]
      refine hrun.bind ?_
      rw [if_neg (mt hvisit.mp hfatal), bind_pure_comp]
      exact hrest.map _

end Detector
end SiteProbe
