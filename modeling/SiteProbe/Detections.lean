import SiteProbe.Rule.Store

/-!
# Detections

What has been detected so far: names of technologies with versions, empty if they are not known. A version that is known
stays (`get?_update`), and nothing that was detected is lost. What is detected implies more (`Detections.close`): the
closure ends because each round adds a name that some fingerprint of the store implies (`unimplied_round_lt`).
-/

namespace SiteProbe

/-- The names of technologies with their versions. -/
abbrev Detections := Dict String String

namespace Detections

/-- Whether news of a technology change what is known of it. -/
def isNews (known : Option String) (version : String) : Bool :=
  match known with
  | none => true
  | some v => v = "" && version ≠ ""

/-- Take up that a technology was detected, and say whether anything changed. A known version stays. -/
def update (d : Detections) (name version : String) : Detections × Bool :=
  if isNews (d.get? name) version then (d.insert name version, true) else (d, false)

/-- Take up all detections of a list. -/
def updateAll (d : Detections) (es : List (String × String)) : Detections :=
  es.foldl (fun d e => (d.update e.1 e.2).1) d

/-- Take up other detections. -/
def merge (d e : Detections) : Detections := d.updateAll e.toList

/-- After an update, only the updated technology can have a new version. -/
theorem get?_update (d : Detections) (name version other : String) :
    (d.update name version).1.get? other =
      if other = name ∧ isNews (d.get? name) version then some version else d.get? other := by
  unfold update
  by_cases h : isNews (d.get? name) version = true
  · simp [h, Dict.get?_insert]
  · simp [h]

/-- The technologies that detected ones imply and that are not detected themselves. -/
def missing (s : Store) (d : Detections) : List String :=
  (d.keys.flatMap s.impliesOf).filter fun name => !d.contains name

/-- Add what is missing, without versions. -/
def round (s : Store) (d : Detections) : Detections := d.insertAll ((d.missing s).map fun name => (name, ""))

/-- What the fingerprints of a store imply, as far as it is not detected. -/
def unimplied (s : Store) (d : Detections) : List String :=
  (s.toList.flatMap fun f => f.2.implies).filter fun name => !d.contains name

theorem contains_insert {d : Detections} {k j v : String} :
    (d.insert k v).contains j = (j = k || d.contains j) := by
  unfold Dict.contains
  by_cases h : j = k <;> simp [Dict.get?_insert, h]

theorem contains_insertAll {es : List (String × String)} {d : Detections} {j : String} :
    (d.insertAll es).contains j = (es.any (·.1 = j) || d.contains j) := by
  induction es generalizing d with
  | nil => simp [Dict.insertAll]
  | cons e rest ih =>
    have hstep : d.insertAll (e :: rest) = (d.insert e.1 e.2).insertAll rest := rfl
    rw [hstep, ih, contains_insert, List.any_cons, show decide (j = e.1) = decide (e.1 = j) from
      decide_eq_decide.mpr eq_comm, Bool.or_left_comm, Bool.or_assoc]

/-- What is looked up among the entries of a list stands in it. -/
theorem mem_of_lookup {α : Type} {k : String} {v : α} :
    ∀ {es : List (String × α)}, Dict.lookup k es = some v → (k, v) ∈ es
  | [], h => by simp [Dict.lookup] at h
  | (k', v') :: rest, h => by
    unfold Dict.lookup at h
    split at h
    · rename_i hk
      obtain rfl := Std.LawfulEqCmp.compare_eq_iff_eq.mp hk
      exact List.mem_cons.mpr (.inl (by rw [Option.some.inj h]))
    · exact List.mem_cons_of_mem _ (mem_of_lookup h)

/-- What a technology implies stands in its fingerprint. -/
theorem mem_implies_of_impliesOf {s : Store} {name n : String} (h : n ∈ s.impliesOf name) :
    n ∈ s.toList.flatMap fun f => f.2.implies := by
  unfold Store.impliesOf at h
  cases hf : s.get? name with
  | none => simp [hf] at h
  | some f =>
    rw [hf] at h
    exact List.mem_flatMap.mpr ⟨(name, f), mem_of_lookup hf, by simpa using h⟩

/-- A filter that lets less through and stops something makes a list shorter. -/
theorem length_filter_lt {α : Type} {p q : α → Bool} (hpq : ∀ a, q a = true → p a = true) {a : α} :
    ∀ {l : List α}, a ∈ l → p a = true → q a = false → (l.filter q).length < (l.filter p).length
  | [], ha, _, _ => by simp at ha
  | b :: rest, ha, hp, hq => by
    have hle : (rest.filter q).length ≤ (rest.filter p).length := by
      simpa [← List.countP_eq_length_filter] using List.countP_mono_left fun c _ => hpq c
    rcases List.mem_cons.mp ha with rfl | ha
    · simp [hp, hq]
      omega
    · have ih := length_filter_lt hpq ha hp hq
      by_cases hb : q b = true
      · simp [hb, hpq b hb]
        exact ih
      · by_cases hb' : p b = true
        · simp [hb, hb']
          omega
        · simpa [hb, hb'] using ih

/-- A round that adds anything leaves less to add. -/
theorem unimplied_round_lt {s : Store} {d : Detections} (h : d.missing s ≠ []) :
    ((d.round s).unimplied s).length < (d.unimplied s).length := by
  obtain ⟨name, hname⟩ := List.exists_mem_of_ne_nil _ h
  have hm := List.mem_filter.mp hname
  obtain ⟨k, hk, hn⟩ := List.mem_flatMap.mp hm.1
  unfold unimplied
  refine length_filter_lt (fun a ha => ?_) (mem_implies_of_impliesOf hn) hm.2 ?_
  · simp only [round, contains_insertAll, Bool.not_or, Bool.and_eq_true] at ha
    exact ha.2
  · simp only [round, contains_insertAll, Bool.not_eq_false', Bool.or_eq_true, List.any_eq_true]
    exact .inl ⟨(name, ""), List.mem_map.mpr ⟨name, hname, rfl⟩, by simp⟩

/-- Add all that is implied, without versions, until nothing is missing. -/
def close (s : Store) (d : Detections) : Detections :=
  if _h : d.missing s = [] then d else (d.round s).close s
termination_by (d.unimplied s).length
decreasing_by exact unimplied_round_lt (by assumption)

end Detections
end SiteProbe
