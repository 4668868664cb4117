import SiteProbe.Proofs.Compiling
import SiteProbe.Proofs.TextDepth
import SiteProbe.Rule.Source

/-!
# Depths of queries

A query can be deeper than the value that it is written as, but not much: each level of arrays and objects makes at most
two levels of queries (`Query.depth_le`). As the reader of texts has a limit, the queries of all rules that are read
have a bounded depth (`Store.gives_load`, `Source.gives_load`). So has their evaluation, as no more evaluations lie
within each other than queries do (`Query.outcomeWithin?_eq`).
-/

namespace SiteProbe

/-! ## Compiled queries -/

namespace Query

theorem depthList_le_iff {qs : List Query} {n : Nat} : depthList qs ≤ n ↔ ∀ q ∈ qs, q.depth ≤ n := by
  induction qs with
  | nil => simp [depthList]
  | cons q rest ih => rw [depthList, Nat.max_le, ih, List.forall_mem_cons]

theorem depth_pos (q : Query) : 0 < q.depth := by
  cases q <;> simp [depth]

theorem depth_ofField (path : String) (condition : Json) : (ofField path condition).depth = 1 := by
  unfold ofField
  split
  · rfl
  · dsimp only
    split <;> rfl
  · rfl

/-- Putting conditions together adds a level if there are several. -/
theorem depth_conjunction_le {qs : List Query} {n : Nat} (h : ∀ q ∈ qs, q.depth ≤ n) :
    (conjunction qs).depth ≤ n + 1 := by
  match qs with
  | [] => exact Nat.le_add_left 1 n
  | [q] => exact Nat.le_succ_of_le (h q List.mem_cons_self)
  | q :: q' :: rest => exact Nat.succ_le_succ (depthList_le_iff.mpr h)

/-- An array of queries adds a level to them. -/
theorem depthList_ofItems_le {items : List Json} (h : ∀ v ∈ items, (ofJson v).depth ≤ 2 * v.depth + 1) :
    depthList (ofItems items) + 1 ≤ 2 * (Json.array items).depth := by
  rw [Json.depth, Nat.mul_add_one]
  refine Nat.succ_le_succ (depthList_le_iff.mpr fun q hq => ?_)
  rw [ofItems_eq] at hq
  obtain ⟨v, hv, rfl⟩ := List.mem_map.mp hq
  have hdepth := Json.depthItems_le_iff.mp (Nat.le_refl _) v hv
  exact Nat.le_trans (h v hv) (by omega)

theorem depth_ofMember_array_le {items : List Json} (h : ∀ v ∈ items, (ofJson v).depth ≤ 2 * v.depth + 1)
    (key : String) : (ofMember key (.array items)).depth ≤ 2 * (Json.array items).depth := by
  have hlist := depthList_ofItems_le h
  have hone : 1 ≤ 2 * (Json.array items).depth := Nat.le_trans (Nat.le_add_left 1 _) hlist
  simp only [ofMember]
  split
  · exact hlist
  split
  · exact hlist
  split
  · exact hlist
  split
  · exact hone
  · rwa [depth_ofField]

theorem depth_ofMember_object_le {members : List (String × Json)} {n : Nat}
    (h : (ofJson (.object members)).depth ≤ n) (key : String) : (ofMember key (.object members)).depth ≤ n + 1 := by
  have hone : 1 ≤ n + 1 := Nat.le_add_left 1 n
  simp only [ofMember]
  split
  · exact hone
  split
  · exact hone
  split
  · exact hone
  split
  · exact Nat.succ_le_succ h
  · rwa [depth_ofField]

/-- Other values hold no queries. -/
theorem depth_ofMember_leaf {v : Json} (h : v.depth = 0) (key : String) : (ofMember key v).depth = 1 := by
  cases v with
  | array items => exact absurd h (Nat.succ_ne_zero _)
  | object members => exact absurd h (Nat.succ_ne_zero _)
  | _ =>
    by_cases hkey : key ∈ Wire.combinators
    · simp only [Wire.combinators, List.mem_cons, List.not_mem_nil, or_false] at hkey
      rcases hkey with rfl | rfl | rfl | rfl <;> rfl
    · rw [ofMember_eq_ofField hkey, depth_ofField]

/-- Each level of arrays and objects makes at most two levels of queries: one for an operator, and one if an object has
several members. -/
theorem depth_le (v : Json) :
    (ofJson v).depth ≤ 2 * v.depth + 1 ∧ ∀ key, (ofMember key v).depth ≤ 2 * v.depth + 2 := by
  induction v using Json.inductionOn with
  | array items ih =>
    refine ⟨Nat.le_add_left 1 _, fun key => ?_⟩
    exact Nat.le_add_right_of_le (depth_ofMember_array_le (fun v hv => (ih v hv).1) key)
  | object members ih =>
    have hobject : (ofJson (.object members)).depth ≤ 2 * (Json.object members).depth + 1 := by
      rw [ofJson, ofMembers_eq, Json.depth]
      refine depth_conjunction_le fun q hq => ?_
      obtain ⟨m, hm, rfl⟩ := List.mem_map.mp hq
      have hdepth := Json.depthMembers_le_iff.mp (Nat.le_refl _) m hm
      exact Nat.le_trans ((ih m hm).2 m.1) (by omega)
    exact ⟨hobject, depth_ofMember_object_le hobject⟩
  | _ => exact ⟨Nat.le_refl 1, fun key => by rw [depth_ofMember_leaf rfl]; exact Nat.le_add_left 1 _⟩

/-- Two levels of objects make four of queries if there are several members on each. -/
example : (ofJson (.object [("$not", .object [("a", .null), ("b", .null)]), ("c", .null)])).depth = 4 := by decide

/-! ## Evaluation within bounds -/

mutual

/-- The outcome of a query, if no more evaluations than a number of them lie within each other. -/
def outcomeWithin? (p : Page) : Nat → Query → Option Outcome
  | 0, _ => Option.none
  | n + 1, .all qs => outcomeAllWithin? p n qs
  | n + 1, .any qs => outcomeAnyWithin? p n qs
  | n + 1, .none qs => do return .ofBool (!(← outcomeAnyWithin? p n qs).matched)
  | n + 1, .not q => do return .ofBool (!(← outcomeWithin? p n q).matched)
  | _ + 1, .field f ops => some (fieldOutcome p f ops)
  | _ + 1, .never => some .miss

/-- All queries match, each evaluated within the same bound. -/
def outcomeAllWithin? (p : Page) (n : Nat) : List Query → Option Outcome
  | [] => some (.hit "")
  | q :: rest => do
    let first ← outcomeWithin? p n q
    return first.both (← outcomeAllWithin? p n rest)

/-- The first query that matches, each evaluated within the same bound. -/
def outcomeAnyWithin? (p : Page) (n : Nat) : List Query → Option Outcome
  | [] => some .miss
  | q :: rest => do
    let first ← outcomeWithin? p n q
    if first.matched then return first else outcomeAnyWithin? p n rest

end

section Within

variable {p : Page} {n : Nat} {qs : List Query}

theorem outcomeAllWithin?_eq (h : ∀ q ∈ qs, outcomeWithin? p n q = some (q.outcome p)) :
    outcomeAllWithin? p n qs = some (outcomeAll p qs) := by
  induction qs with
  | nil => rfl
  | cons q rest ih =>
    obtain ⟨hq, hrest⟩ := List.forall_mem_cons.mp h
    rw [outcomeAllWithin?, hq, ih hrest]
    rfl

theorem outcomeAnyWithin?_eq (h : ∀ q ∈ qs, outcomeWithin? p n q = some (q.outcome p)) :
    outcomeAnyWithin? p n qs = some (outcomeAny p qs) := by
  induction qs with
  | nil => rfl
  | cons q rest ih =>
    obtain ⟨hq, hrest⟩ := List.forall_mem_cons.mp h
    rw [outcomeAnyWithin?, hq, ih hrest, outcomeAny]
    cases hmatched : (q.outcome p).matched <;> simp [hmatched]

/-- The depth of a query bounds how many evaluations lie within each other. -/
theorem outcomeWithin?_eq {q : Query} (h : q.depth ≤ n) : outcomeWithin? p n q = some (q.outcome p) := by
  induction n generalizing q with
  | zero => exact absurd h (Nat.not_le_of_lt q.depth_pos)
  | succ n ih =>
    have hparts {qs : List Query} (hqs : depthList qs + 1 ≤ n + 1) :
        ∀ q ∈ qs, outcomeWithin? p n q = some (q.outcome p) :=
      fun q hq => ih (depthList_le_iff.mp (Nat.le_of_succ_le_succ hqs) q hq)
    cases q with
    | all qs => exact outcomeAllWithin?_eq (hparts h)
    | any qs => exact outcomeAnyWithin?_eq (hparts h)
    | none qs =>
      rw [outcomeWithin?, outcomeAnyWithin?_eq (hparts h)]
      rfl
    | not q =>
      rw [outcomeWithin?, ih (Nat.le_of_succ_le_succ h)]
      rfl
    | field f ops => rfl
    | never => rfl

end Within

end Query

/-! ## Rules that are read -/

section Rules

variable {room n : Nat}

theorem Probe.gives_queryOfDraft (hn : 2 * room + 1 ≤ n) (d : Json.Draft) :
    Gives (fun q => q.depth ≤ n) (queryOfDraft room d) := by
  refine d.gives_toJson.map fun v hv => ?_
  have hquery := (Query.depth_le v).1
  have hvalue := hv.value
  have hdraft := hv.draft
  omega

theorem Probe.gives_ofDraft (hn : 2 * room + 1 ≤ n) (d : Json.Draft) :
    Gives (fun p => p.detect.depth ≤ n) (ofDraft room d) := by
  unfold ofDraft
  refine Gives.bind (P := fun s => ∀ q ∈ s.detect, q.depth ≤ n) ?_ fun s hs => ?_
  · refine Json.Draft.gives_record nofun (fun s k d hs => ?_) _ _ _ d
    unfold Fields.take
    -- only the query is read into what the invariant speaks of
    split
    case h_3 => exact (Json.Draft.gives_once (gives_queryOfDraft (by omega) d) _ _).bind fun _ hnew => .pure hnew
    all_goals exact (Gives.any _).bind fun _ _ => .pure hs
  · split
    · refine .pure ?_
      cases hdetect : s.detect with
      | none => exact Nat.le_trans (Nat.le_add_left 1 _) hn
      | some q => exact hs q hdetect
    · exact .of_error

/-- All queries of a fingerprint are no deeper than a number. -/
def Fingerprint.QueriesWithin (n : Nat) (f : Fingerprint) : Prop := ∀ p ∈ f.paths, p.detect.depth ≤ n

theorem Fingerprint.gives_ofDraft (hn : 2 * room + 1 ≤ n) (d : Json.Draft) :
    Gives (QueriesWithin n) (ofDraft room d) := by
  unfold ofDraft
  refine Gives.bind (P := fun s => ∀ ps ∈ s.paths, ∀ p ∈ ps, p.detect.depth ≤ n) ?_ fun s hs => ?_
  · refine Json.Draft.gives_record nofun (fun s k d hs => ?_) _ _ _ d
    unfold Fields.take
    -- only the probes are
    split
    case h_4 =>
      have hprobes : Gives (fun ps => ∀ p ∈ ps, p.detect.depth ≤ n) (d.list Probe.ofDraft (room - 1)) :=
        Json.Draft.gives_list (fun d => Probe.gives_ofDraft (by omega) d) d
      exact (Json.Draft.gives_once hprobes _ _).bind fun _ hnew => .pure hnew
    all_goals exact (Gives.any _).bind fun _ _ => .pure hs
  · refine .pure fun p hp => ?_
    cases hpaths : s.paths with
    | none => simp [hpaths] at hp
    | some ps => exact hs ps hpaths p (by simpa [hpaths] using hp)

namespace Store

/-- All queries of a store are no deeper than a number. -/
def QueriesWithin (n : Nat) (s : Store) : Prop := ∀ tech f, s.get? tech = some f → f.QueriesWithin n

theorem queriesWithin_empty (n : Nat) : QueriesWithin n .empty := by
  intro tech f hf
  rw [Dict.get?_empty] at hf
  cases hf

theorem gives_databaseOfDraft (hn : 2 * room + 1 ≤ n) (d : Json.Draft) :
    Gives (QueriesWithin n) (Fingerprint.databaseOfDraft room d) := by
  unfold Fingerprint.databaseOfDraft
  refine Gives.bind (P := fun s => ∀ t ∈ s, QueriesWithin n t) ?_ fun s hs => ?_
  · refine Json.Draft.gives_record nofun (fun s k d hs => ?_) _ _ _ d
    exact Json.Draft.gives_once (Json.Draft.gives_dict (fun d => Fingerprint.gives_ofDraft (by omega) d) d) _ _
  · cases s with
    | none => exact .pure (queriesWithin_empty n)
    | some t => exact .pure (hs t rfl)

/-! ## Stores that are loaded -/

theorem QueriesWithin.extend {s t : Store} (hs : s.QueriesWithin n) (ht : t.QueriesWithin n) :
    (s.extend t).QueriesWithin n := by
  intro tech f hf
  rw [Store.extend, Dict.get?_insertAll, Dict.latest?_toList, Option.or_eq_some_iff] at hf
  rcases hf with hf | ⟨-, hf⟩
  · exact ht tech f hf
  · exact hs tech f hf

theorem gives_ofBytes (bytes : List UInt8) : Gives (QueriesWithin 257) (ofBytes bytes) :=
  Json.gives_decodeText (gives_databaseOfDraft (by decide) _)

theorem gives_load (bytes : List UInt8) : Gives (QueriesWithin 257) (load bytes) := (gives_ofBytes bytes).mapError

theorem gives_loadFile (path : String) (content : FileContent) : Gives (QueriesWithin 257) (loadFile path content) := by
  cases content with
  | error reason => exact .of_error
  | ok bytes => exact (gives_ofBytes bytes).mapError

end Store

namespace Source

theorem gives_loadAll (folder : String) {s : Store} (hs : s.QueriesWithin 257) (files : List (String × FileContent)) :
    Gives (Store.QueriesWithin 257) (loadAll folder s files) := by
  induction files generalizing s with
  | nil => exact .pure hs
  | cons file rest ih => exact (Store.gives_loadFile _ _).bind fun t ht => ih (hs.extend ht)

theorem gives_load (path : String) (source : Source) : Gives (Store.QueriesWithin 257) (source.load path) := by
  cases source with
  | missing reason => exact .of_error
  | file content => exact Store.gives_loadFile path content
  | folder entries =>
    cases entries with
    | error reason => exact .of_error
    | ok entries => exact gives_loadAll path (Store.queriesWithin_empty 257) _

end Source

end Rules

/-- A level of arrays and objects in a value makes at most two levels of queries, for all values. A text that is read
is less deep than the limit; so all queries that are read, and those of all stores that are loaded from the text of
rules, from a file or from a folder, have a depth of at most 257, and on all pages no more than 257 evaluations lie
within each other. -/
theorem Query.depth_bounded :
    (∀ v, (ofJson v).depth ≤ 2 * v.depth + 1) ∧
    (∀ bytes v, Json.parse bytes = .ok v →
      v.depth ≤ (Json.draft bytes).1.depth ∧ (Json.draft bytes).1.depth < Json.depthLimit) ∧
    (∀ bytes q, Json.decodeText Probe.queryOfDraft bytes = .ok q → q.depth ≤ 257 ∧
      ∀ page, outcomeWithin? page 257 q = some (q.outcome page)) ∧
    ∀ s : Store, (∃ bytes, Store.load bytes = .ok s) ∨ (∃ path source, Source.load path source = .ok s) →
      ∀ tech f, s.get? tech = some f → ∀ p ∈ f.paths, p.detect.depth ≤ 257 ∧
        ∀ page, outcomeWithin? page 257 p.detect = some (p.detect.outcome page) := by
  refine ⟨fun v => (depth_le v).1, Json.gives_parse, fun bytes q hq => ?_, fun s hs tech f hf p hp => ?_⟩
  · have hdepth : q.depth ≤ 257 := Json.gives_decodeText (Probe.gives_queryOfDraft (by decide) _) q hq
    exact ⟨hdepth, fun page => outcomeWithin?_eq hdepth⟩
  · have hwithin : s.QueriesWithin 257 := by
      rcases hs with ⟨bytes, hload⟩ | ⟨path, source, hload⟩
      · exact Store.gives_load bytes s hload
      · exact Source.gives_load path source s hload
    have hdepth := hwithin tech f hf p hp
    exact ⟨hdepth, fun page => outcomeWithin?_eq hdepth⟩

/-- A text of a query with two members, one of them a negation. -/
def sampleQueryText : String :=
  "\x7b\"body\": \x7b\"$exists\": true\x7d, \"$not\": \x7b\"body\": \x7b\"$eq\": \"\"\x7d\x7d\x7d"

/-- A text of rules with this query. -/
def sampleRules : List UInt8 :=
  let probe := "\x7b\"path\": \"/\", \"detect\": " ++ sampleQueryText ++ "\x7d"
  Utf8.encode ("\x7b\"apps\": \x7b\"Blog\": \x7b\"paths\": [" ++ probe ++ "]\x7d\x7d\x7d")

/-- The query of the sample has three levels, and is evaluated within the bound, read alone and in its rules. The text
of the rules has eight levels. -/
theorem Query.depth_bounded_sample :
    (∃ v, Json.parse sampleRules = .ok v ∧ (Json.draft sampleRules).1.depth = 8 ∧ v.depth ≤ 8) ∧
    (∃ q, Json.decodeText Probe.queryOfDraft (Utf8.encode sampleQueryText) = .ok q ∧ q.depth = 3 ∧
      ∀ page, outcomeWithin? page 257 q = some (q.outcome page)) ∧
    ∃ s f p, Store.load sampleRules = .ok s ∧ s.get? "Blog" = some f ∧ p ∈ f.paths ∧ p.detect.depth = 3 ∧
      ∀ page, outcomeWithin? page 257 p.detect = some (p.detect.outcome page) := by
  obtain ⟨-, hparse, hquery, hstore⟩ := Query.depth_bounded
  refine ⟨?_, ?_, ?_⟩
  · have hread : (Json.parse sampleRules).toOption.isSome := by decide +kernel
    have hdepth : (Json.draft sampleRules).1.depth = 8 := by decide +kernel
    obtain ⟨v, hv⟩ := Option.isSome_iff_exists.mp hread
    have hparsed := eq_ok_of_toOption hv
    exact ⟨v, hparsed, hdepth, hdepth ▸ (hparse sampleRules v hparsed).1⟩
  · have hread : (Json.decodeText Probe.queryOfDraft (Utf8.encode sampleQueryText)).toOption.map depth = some 3 := by
      decide +kernel
    obtain ⟨q, hq, hdepth⟩ := Option.map_eq_some_iff.mp hread
    have hdecoded := eq_ok_of_toOption hq
    exact ⟨q, hdecoded, hdepth, (hquery _ q hdecoded).2⟩
  · have hread : (Store.load sampleRules).toOption.bind (fun s => (s.get? "Blog").bind fun f =>
        f.paths.head?.map fun p => p.detect.depth) = some 3 := by decide +kernel
    obtain ⟨s, hs, hfound⟩ := Option.bind_eq_some_iff.mp hread
    obtain ⟨f, hf, hpaths⟩ := Option.bind_eq_some_iff.mp hfound
    obtain ⟨p, hp, hdepth⟩ := Option.map_eq_some_iff.mp hpaths
    have hload := eq_ok_of_toOption hs
    have hmem := List.mem_of_mem_head? hp
    exact ⟨s, f, p, hload, hf, hmem, hdepth, (hstore s (.inl ⟨_, hload⟩) "Blog" f hf p hmem).2⟩

end SiteProbe
