import SiteProbe.Proofs.Updates

/-!
# Changes of detections

Detections change by updates, merges and closures, in any order and any number (`Detections.changeAll`). A technology
that was detected stays, and of its version and all those that are supplied for it later the first one that is known
counts (`get?_changeAll`). So what is known never changes, what is not known changes only to a version that was
supplied, and an update says truly whether it changed anything (`changes_only_upgrade`).
-/

namespace SiteProbe.Detections

variable {d : Detections} {name version : String}

/-- A change of detections: news of a technology, other detections, or all that is implied by a store. -/
inductive Change where
  | update (name version : String)
  | merge (other : Detections)
  | close (s : Store)

/-- The versions that a change supplies, under the names of their technologies. -/
def Change.news : Change → List (String × String)
  | .update name version => [(name, version)]
  | .merge other => other.toList
  | .close _ => []

/-- Make a change. -/
def change (d : Detections) : Change → Detections
  | .update name version => (d.update name version).1
  | .merge other => d.merge other
  | .close s => d.close s

/-- Make changes one after the other. -/
def changeAll (d : Detections) (cs : List Change) : Detections := cs.foldl change d

/-- The versions that changes supply for a technology. -/
def supplied (name : String) (cs : List Change) : List String :=
  ((cs.flatMap Change.news).filter fun e => e.1 = name).map (·.2)

theorem supplied_cons (name : String) (c : Change) (cs : List Change) :
    supplied name (c :: cs) = supplied name [c] ++ supplied name cs := by
  simp [supplied]

theorem mem_supplied_iff {cs : List Change} : version ∈ supplied name cs ↔ ∃ c ∈ cs, (name, version) ∈ c.news := by
  simp [supplied]

theorem changeAll_append (d : Detections) (cs more : List Change) :
    d.changeAll (cs ++ more) = (d.changeAll cs).changeAll more := List.foldl_append

/-! ## Versions -/

/-- A change supplies its versions behind the one that is there. -/
theorem get?_change (h : d.get? name = some version) (c : Change) :
    (d.change c).get? name = best (version :: supplied name [c]) := by
  have hupdateAll (es : List (String × String)) :
      (d.updateAll es).get? name = best (version :: (es.filter fun e => e.1 = name).map (·.2)) := by
    rw [get?_updateAll, h, Option.toList_some, List.singleton_append]
  have hnews : supplied name [c] = (c.news.filter fun e => e.1 = name).map (·.2) := by
    simp [supplied]
  rw [hnews]
  cases c with
  | update name' version' => exact hupdateAll [(name', version')]
  | merge other => exact hupdateAll other.toList
  | close s =>
    have hcontains : d.contains name := by rw [Dict.contains, h, Option.isSome_some]
    have hkept := (close_isClosure s d).kept name hcontains
    exact (hkept.trans h).trans (best_singleton version).symm

/-- Of the version that is there and of those that are supplied later, the first one that is known counts. -/
theorem get?_changeAll (h : d.get? name = some version) (cs : List Change) :
    (d.changeAll cs).get? name = best (version :: supplied name cs) := by
  induction cs generalizing d version with
  | nil => exact h.trans (best_singleton version).symm
  | cons c rest ih =>
    have hstep := get?_change h c
    have hsome := best_of_ne_nil (List.cons_ne_nil version (supplied name [c]))
    have hrest := ih (hstep.trans hsome)
    rw [supplied_cons, ← List.cons_append, ← best_append, hsome]
    exact hrest

/-- Whatever changes, names and known versions are kept. -/
theorem keeps_changeAll (d : Detections) (cs : List Change) : Keeps d (d.changeAll cs) := by
  intro name version h
  have hget := get?_changeAll h cs
  by_cases hne : version = ""
  · exact ⟨_, hget.trans (best_of_ne_nil (List.cons_ne_nil _ _)), fun hne' => absurd hne hne'⟩
  · exact ⟨version, hget.trans (best_cons_of_ne hne _), fun _ => rfl⟩

/-- A version that was not known is the first known one that was supplied since, if there is one. -/
theorem get?_changeAll_of_empty (h : d.get? name = some "") (cs : List Change) :
    (d.changeAll cs).get? name = some (((supplied name cs).find? (· ≠ "")).getD "") := by
  rw [get?_changeAll h, best_of_ne_nil (List.cons_ne_nil _ _)]
  simp

/-! ## What an update says -/

/-- An update says that something changed if and only if something did. -/
theorem update_changed_iff (d : Detections) (name version : String) :
    (d.update name version).2 = true ↔ (d.update name version).1 ≠ d := by
  unfold update
  by_cases hnews : isNews (d.get? name) version = true
  · rw [if_pos hnews]
    refine iff_of_true rfl fun hsame => ?_
    -- the version under the name is the new one, which was no news if it had been there before
    have hget : d.get? name = some version := by
      rw [← Dict.get?_insert_self d name version]
      exact congrArg (Dict.get? · name) hsame.symm
    rw [hget] at hnews
    by_cases hversion : version = "" <;> simp [isNews, hversion] at hnews
  · rw [if_neg hnews]
    exact iff_of_false Bool.false_ne_true fun hne => hne rfl

/-! ## Changes in a row -/

/-- Between any two moments of a row of changes, all names and all known versions are kept, and a version that was not
known is the first known one that updates or merges supplied in between, if there is one. At each moment an update says
that it changes something if and only if it does. -/
theorem changes_only_upgrade (d : Detections) (before between : List Change) :
    let earlier := d.changeAll before
    let later := d.changeAll (before ++ between)
    Keeps earlier later ∧
    (∀ name, earlier.get? name = some "" → ∃ version, later.get? name = some version ∧
      version = ((supplied name between).find? (· ≠ "")).getD "" ∧
      (version ≠ "" → ∃ c ∈ between, (name, version) ∈ c.news)) ∧
    ∀ name version, (earlier.update name version).2 = true ↔ d.changeAll (before ++ [.update name version]) ≠ earlier := by
  intro earlier later
  have hlater : later = earlier.changeAll between := changeAll_append d before between
  refine ⟨hlater ▸ keeps_changeAll earlier between, ?_, ?_⟩
  · intro name hempty
    refine ⟨_, hlater ▸ get?_changeAll_of_empty hempty between, rfl, ?_⟩
    generalize hfind : (supplied name between).find? (· ≠ "") = found
    intro hne
    cases found with
    | none => exact absurd rfl hne
    | some version => exact mem_supplied_iff.mp (List.mem_of_find?_eq_some hfind)
  · intro name version
    have hupdate : d.changeAll (before ++ [.update name version]) = (earlier.update name version).1 :=
      changeAll_append d before [.update name version]
    rw [hupdate]
    exact update_changed_iff earlier name version

end SiteProbe.Detections
