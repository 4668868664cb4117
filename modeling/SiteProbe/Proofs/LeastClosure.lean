import Mathlib.Logic.Function.Iterate
import Mathlib.Order.WellFounded
import SiteProbe.Proofs.Updates

/-!
# The least closure

The rounds in which a closure is computed come to an end, as each adds a name that the store mentions
(`close_eq_iterate`). What they come to is the least of all detections that keep the given ones and lack nothing that
they imply (`keeps_of_isClosed`). The rounds are one way to get there: names may be added in any order, some at a time,
and every way ends (`wellFounded_adds`), with the same closure ahead all along (`close_eq_of_adds`).
-/

namespace SiteProbe.Detections

variable {s : Store} {d e : Detections}

/-- All that is implied is there. -/
def IsClosed (s : Store) (e : Detections) : Prop := ∀ a b, e.contains a → s.Implies a b → e.contains b

/-- Nothing is missing where all that is implied is there. -/
theorem missing_eq_nil_iff : d.missing s = [] ↔ IsClosed s d := by
  constructor
  · intro h a b ha himplies
    refine Decidable.byContradiction fun hb => ?_
    have hmissing : b ∈ d.missing s := mem_missing_iff.mpr ⟨⟨a, ha, himplies⟩, hb⟩
    rw [h] at hmissing
    cases hmissing
  · intro h
    refine List.eq_nil_iff_forall_not_mem.mpr fun b hb => ?_
    obtain ⟨⟨a, ha, himplies⟩, hnot⟩ := mem_missing_iff.mp hb
    exact hnot (h a b ha himplies)

theorem IsClosed.of_reaches (h : IsClosed s e) {start name : String} (hstart : e.contains start)
    (hreach : Relation.ReflTransGen s.Implies start name) : e.contains name := by
  induction hreach with
  | refl => exact hstart
  | tail _ himplies ih => exact h _ _ ih himplies

/-! ## Rounds -/

/-- The rounds end after as many as there are mentioned names that are not detected, at the latest. -/
theorem close_eq_iterate (s : Store) (d : Detections) : ∃ n ≤ (d.unimplied s).length,
    (∀ k < n, ((round s)^[k] d).missing s ≠ []) ∧ ((round s)^[n] d).missing s = [] ∧
      d.close s = (round s)^[n] d := by
  induction d using close.induct s with
  | case1 d h =>
    refine ⟨0, Nat.zero_le _, fun k hk => absurd hk (Nat.not_lt_zero k), h, ?_⟩
    rw [close, dif_pos h]
    rfl
  | case2 d h ih =>
    obtain ⟨n, hn, hgoes, hends, hclose⟩ := ih
    refine ⟨n + 1, Nat.lt_of_le_of_lt hn (unimplied_round_lt h), fun k hk => ?_, hends, ?_⟩
    · cases k with
      | zero => exact h
      | succ k => exact hgoes k (Nat.lt_of_succ_lt_succ hk)
    · rw [close, dif_neg h, hclose]
      rfl

theorem isClosed_close (s : Store) (d : Detections) : IsClosed s (d.close s) := by
  obtain ⟨n, -, -, hends, hclose⟩ := close_eq_iterate s d
  rw [hclose]
  exact missing_eq_nil_iff.mp hends

/-- Nothing is added to what lacks nothing. -/
theorem IsClosed.close_eq (h : IsClosed s d) : d.close s = d := by
  rw [close, dif_pos (missing_eq_nil_iff.mpr h)]

/-- Whatever keeps some detections and lacks nothing that is implied keeps their closure. -/
theorem keeps_of_isClosed (he : IsClosed s e) (hkeeps : Keeps d e) : Keeps (d.close s) e := by
  have hclosure := close_isClosure s d
  intro name version hversion
  have hcontains : (d.close s).contains name := by rw [Dict.contains, hversion, Option.isSome_some]
  by_cases hd : d.contains name
  · rw [hclosure.kept name hd] at hversion
    exact hkeeps name version hversion
  · obtain ⟨start, hstart, hreach⟩ := (hclosure.contains_iff name).mp hcontains
    obtain ⟨version', he'⟩ := Option.isSome_iff_exists.mp (he.of_reaches (hkeeps.contains hstart) hreach)
    rw [hclosure.added name hcontains hd] at hversion
    exact ⟨version', he', fun hne => absurd (Option.some.inj hversion).symm hne⟩

/-! ## Other ways to a closure -/

/-- One name may be added alone. -/
theorem adds_insert {name : String} (h : name ∈ d.missing s) : Adds s d (d.insert name "") where
  kept other hother := by
    refine Dict.get?_insert_of_ne d "" fun heq => ?_
    exact (mem_missing_iff.mp h).2 (heq ▸ hother)
  added other hother hnot := by
    have heq : other = name := by simpa [contains_insert, hnot] using hother
    exact ⟨heq ▸ h, by rw [heq, Dict.get?_insert_self]⟩

/-- Adding anything leaves less to add. -/
theorem Adds.unimplied_lt (h : Adds s d e) (hne : e ≠ d) : (e.unimplied s).length < (d.unimplied s).length := by
  have hnew : ∃ name, e.contains name ∧ ¬d.contains name := by
    refine Classical.byContradiction fun hnone => hne (Dict.ext_get? fun name => ?_)
    by_cases hd : d.contains name
    · exact h.kept name hd
    · have he : ¬e.contains name := fun he => hnone ⟨name, he, hd⟩
      rw [Option.not_isSome_iff_eq_none.mp hd, Option.not_isSome_iff_eq_none.mp he]
  obtain ⟨name, he, hd⟩ := hnew
  obtain ⟨⟨start, -, himplies⟩, -⟩ := mem_missing_iff.mp (h.added name he hd).1
  refine length_filter_lt (fun other hother => ?_) (mem_implies_of_impliesOf himplies) ?_ ?_
  · simp only [Bool.not_eq_true', ← Bool.not_eq_true] at hother ⊢
    exact fun hd' => hother (h.contains hd')
  · simpa using hd
  · simpa using he

/-- No way of adding goes on forever. -/
theorem wellFounded_adds (s : Store) : WellFounded fun e d => Adds s d e ∧ e ≠ d :=
  Subrelation.wf (fun {_ _} h => h.1.unimplied_lt h.2)
    (InvImage.wf (fun d : Detections => (d.unimplied s).length) Nat.lt_wfRel.wf)

/-- The closure stays the same while names are added. -/
theorem close_eq_of_adds (h : Relation.ReflTransGen (Adds s) d e) : e.close s = d.close s := by
  induction h with
  | refl => rfl
  | tail _ hadds ih => rw [((close_isClosure s _).of_adds hadds).unique (close_isClosure s _), ih]

/-- Closures depend on what is implied, and not on how the store lists it. -/
theorem close_congr {s' : Store} (h : ∀ a b, s'.Implies a b ↔ s.Implies a b) : d.close s' = d.close s := by
  have hsame : s'.Implies = s.Implies := by
    funext a b
    exact propext (h a b)
  have hclosure := close_isClosure s' d
  refine IsClosure.unique (s := s) ⟨fun name => ?_, hclosure.kept, hclosure.added⟩ (close_isClosure s d)
  rw [← hsame]
  exact hclosure.contains_iff name

/-! ## The closure of any detections -/

/-- For every store, however its technologies imply each other, and all detections: the rounds end; the closure has the
names that are reached by implication, keeps what was detected and gives no versions to the others; it is the least of
all detections that keep the given ones and lack nothing; every way of adding what is missing ends, and ends with it;
and there is nothing to add to it. -/
theorem close_least (s : Store) (d : Detections) :
    (∃ n ≤ (d.unimplied s).length, (∀ k < n, ((round s)^[k] d).missing s ≠ []) ∧
      ((round s)^[n] d).missing s = [] ∧ d.close s = (round s)^[n] d) ∧
    IsClosure s d (d.close s) ∧
    (IsClosed s (d.close s) ∧ Keeps d (d.close s) ∧ ∀ e, IsClosed s e → Keeps d e → Keeps (d.close s) e) ∧
    (WellFounded fun e d => Adds s d e ∧ e ≠ d) ∧
    (∀ e, Relation.ReflTransGen (Adds s) d e → IsClosed s e → e = d.close s) ∧
    (∀ s' : Store, (∀ a b, s'.Implies a b ↔ s.Implies a b) → d.close s' = d.close s) ∧
    (d.close s).close s = d.close s := by
  refine ⟨close_eq_iterate s d, close_isClosure s d, ⟨isClosed_close s d, keeps_close s d, ?_⟩, wellFounded_adds s,
    ?_, ?_, (isClosed_close s d).close_eq⟩
  · exact fun e he hkeeps => keeps_of_isClosed he hkeeps
  · intro e hadds he
    rw [← close_eq_of_adds hadds, he.close_eq]
  · exact fun s' hsame => close_congr hsame

/-- Two technologies that imply each other, one of them also itself and one without a fingerprint. -/
def circle : Store :=
  let implying (names : List String) : Fingerprint := { (default : Fingerprint) with implies := names }
  .ofList [("Shop", implying ["Shop", "Engine", "Ghost"]), ("Engine", implying ["Shop"])]

/-- One of them. -/
def shop : Detections := .ofList [("Shop", "8")]

/-- Adding the technology without a fingerprint before the other one leads to the closure, too, and where a version is
known of the other one, it is kept. -/
theorem close_least_circle : (shop.insert "Ghost" "").insert "Engine" "" = shop.close circle ∧
    Keeps (shop.close circle) (shop.updateAll [("Engine", "2"), ("Ghost", "")]) := by
  obtain ⟨-, -, ⟨-, -, hleast⟩, -, hways, -, -⟩ := close_least circle shop
  constructor
  · refine hways _ ?_ (missing_eq_nil_iff.mp (by decide +kernel))
    exact .head (adds_insert (by decide +kernel)) (.single (adds_insert (by decide +kernel)))
  · exact hleast _ (missing_eq_nil_iff.mp (by decide +kernel)) (keeps_updateAll _ _)

end SiteProbe.Detections
