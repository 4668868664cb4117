import Mathlib.Algebra.Ring.Parity
import SiteProbe.Proofs.Places

/-!
# Mistakes in rules

The more a query matches, the more matches what it stands in under an even number of negations, and the less under an
odd number (`Query.matched_inside_of_imp`). What is written in a wrong way never matches (`Wire.Mistake.not_matched`),
so that under no negation a mistake can only lose a detection (`Wire.matched_of_mistake`). The items of a list that are
no strings are passed over, though: in a list of values that a field must not have, such an item can cause a detection
(`Wire.not_forall_matched_of_mistake`).
-/

namespace SiteProbe

/-! ## Polarity of places -/

namespace Query

variable {p : Page} {q q' : Query}

/-- A query that matches may take the place of another one in a list of which any matches. -/
theorem exists_matched_of_imp {before after : List Query} (h : (q.outcome p).matched → (q'.outcome p).matched) :
    (∃ r ∈ before ++ q :: after, (r.outcome p).matched) → ∃ r ∈ before ++ q' :: after, (r.outcome p).matched := by
  rintro ⟨r, hr, hmatched⟩
  rcases List.mem_append.mp hr with hbefore | hrest
  · exact ⟨r, List.mem_append_left _ hbefore, hmatched⟩
  rcases List.mem_cons.mp hrest with rfl | hafter
  · exact ⟨q', List.mem_append_right _ List.mem_cons_self, h hmatched⟩
  · exact ⟨r, List.mem_append_right _ (List.mem_cons_of_mem q' hafter), hmatched⟩

namespace Frame

theorem matched_fill_mono {frame : Frame} (hframe : frame.negates = false)
    (h : (q.outcome p).matched → (q'.outcome p).matched) :
    ((frame.fill q).outcome p).matched → ((frame.fill q').outcome p).matched := by
  cases frame with
  | all before after =>
    simp only [fill, Query.matched_all, List.forall_mem_append, List.forall_mem_cons]
    rintro ⟨hbefore, hq, hafter⟩
    exact ⟨hbefore, h hq, hafter⟩
  | any before after =>
    rw [fill, fill, Query.matched_any, Query.matched_any]
    exact exists_matched_of_imp h
  | none before after => cases hframe
  | not => cases hframe

theorem matched_fill_anti {frame : Frame} (hframe : frame.negates)
    (h : (q.outcome p).matched → (q'.outcome p).matched) :
    ((frame.fill q').outcome p).matched → ((frame.fill q).outcome p).matched := by
  cases frame with
  | all before after => cases hframe
  | any before after => cases hframe
  | none before after =>
    rw [fill, fill, Query.matched_none, Query.matched_none]
    exact mt (exists_matched_of_imp h)
  | not =>
    rw [fill, fill, Query.matched_not, Query.matched_not]
    exact mt h

end Frame

/-- If a query matches whenever another one does, so it is where the two stand under an even number of negations, and
the other way round where they stand under an odd number. -/
theorem matched_inside_of_imp (h : (q.outcome p).matched → (q'.outcome p).matched) (place : List Frame) :
    (Even (negations place) → ((q.inside place).outcome p).matched → ((q'.inside place).outcome p).matched) ∧
      (Odd (negations place) → ((q'.inside place).outcome p).matched → ((q.inside place).outcome p).matched) := by
  induction place with
  | nil => exact ⟨fun _ => h, nofun⟩
  | cons frame rest ih =>
    obtain ⟨heven, hodd⟩ := ih
    cases hframe : frame.negates with
    | false =>
      have hcount : negations (frame :: rest) = negations rest := List.countP_cons_of_neg (by simp [hframe])
      rw [hcount]
      exact ⟨fun hn => frame.matched_fill_mono hframe (heven hn), fun hn => frame.matched_fill_mono hframe (hodd hn)⟩
    | true =>
      have hcount : negations (frame :: rest) = negations rest + 1 := List.countP_cons_of_pos hframe
      rw [hcount, Nat.even_add_one, Nat.not_even_iff_odd, Nat.odd_add_one, Nat.not_odd_iff_even]
      exact ⟨fun hn => frame.matched_fill_anti hframe (hodd hn), fun hn => frame.matched_fill_anti hframe (heven hn)⟩

end Query

namespace Wire

variable {p : Page} {v w : Json}

/-! ## Places in values -/

/-- What lies around a value in a list under a key that is no negation. The object may have other entries. -/
structure Frame where
  before : List (String × Json)
  key : String
  unnegated : key ∈ ["$and", "$or"]
  itemsBefore : List Json
  itemsAfter : List Json
  after : List (String × Json)

namespace Frame

/-- Put a value into a frame. -/
def fill (v : Json) (frame : Frame) : Json :=
  .object (frame.before ++ (frame.key, .array (frame.itemsBefore ++ v :: frame.itemsAfter)) :: frame.after)

/-- What lies around the query that the value in a frame is compiled to. -/
def compiled (frame : Frame) : List Query.Frame :=
  [.all (Query.ofMembers frame.before) (Query.ofMembers frame.after),
    if frame.key = "$and" then .all (Query.ofItems frame.itemsBefore) (Query.ofItems frame.itemsAfter)
    else .any (Query.ofItems frame.itemsBefore) (Query.ofItems frame.itemsAfter)]

theorem outcome_fill (p : Page) (frame : Frame) (v : Json) :
    (Query.ofJson (frame.fill v)).outcome p = ((Query.ofJson v).inside frame.compiled).outcome p := by
  obtain ⟨before, key, hkey, itemsBefore, itemsAfter, after⟩ := frame
  have hitems : Query.ofItems (itemsBefore ++ v :: itemsAfter) =
      Query.ofItems itemsBefore ++ Query.ofJson v :: Query.ofItems itemsAfter := by
    simp only [Query.ofItems_eq, List.map_append, List.map_cons]
  have hentry : Query.ofMember key (.array (itemsBefore ++ v :: itemsAfter)) =
      (Query.ofJson v).inside [if key = "$and" then .all (Query.ofItems itemsBefore) (Query.ofItems itemsAfter)
        else .any (Query.ofItems itemsBefore) (Query.ofItems itemsAfter)] := by
    simp only [List.mem_cons, List.not_mem_nil, or_false] at hkey
    rcases hkey with rfl | rfl
    · rw [Query.ofMember, if_pos rfl, if_pos rfl, hitems]
      rfl
    · rw [Query.ofMember, if_neg (by decide), if_pos rfl, if_neg (by decide), hitems]
      rfl
  have hmembers : Query.ofMembers (before ++ (key, .array (itemsBefore ++ v :: itemsAfter)) :: after) =
      Query.ofMembers before ++
        Query.ofMember key (.array (itemsBefore ++ v :: itemsAfter)) :: Query.ofMembers after := by
    simp only [Query.ofMembers_eq, List.map_append, List.map_cons]
  rw [fill, Query.ofJson, Query.outcome_conjunction, hmembers, if_neg (by simp), hentry]
  exact (Query.outcomeAll_eq p _).symm

end Frame

/-- A value at a place, which is given by the frames around it, from the outside in. -/
def inside (v : Json) : List Frame → Json
  | [] => v
  | frame :: rest => frame.fill (inside v rest)

/-- What is compiled of a value at a place stands at a place, too. -/
theorem outcome_inside (p : Page) (v : Json) (place : List Frame) :
    (Query.ofJson (inside v place)).outcome p =
      ((Query.ofJson v).inside (place.flatMap Frame.compiled)).outcome p := by
  induction place with
  | nil => rfl
  | cons frame rest ih =>
    rw [inside, Frame.outcome_fill, List.flatMap_cons, Query.inside_append]
    exact Query.outcome_inside_congr ih frame.compiled

theorem negations_compiled (place : List Frame) : Query.negations (place.flatMap Frame.compiled) = 0 := by
  rw [Query.negations, List.countP_eq_zero]
  intro frame hframe
  obtain ⟨around, -, hframe⟩ := List.mem_flatMap.mp hframe
  simp only [Frame.compiled, List.mem_cons, List.not_mem_nil, or_false] at hframe
  rcases hframe with rfl | rfl
  · exact Bool.false_ne_true
  · split <;> exact Bool.false_ne_true

/-- A value may take the place of another one, under no negation, if it matches whenever the other one does. -/
theorem matched_inside_mono (h : ((Query.ofJson v).outcome p).matched → ((Query.ofJson w).outcome p).matched)
    (place : List Frame) : ((Query.ofJson (inside v place)).outcome p).matched →
      ((Query.ofJson (inside w place)).outcome p).matched := by
  rw [outcome_inside, outcome_inside]
  exact (Query.matched_inside_of_imp h _).1 (by rw [negations_compiled]; exact Even.zero)

/-! ## Mistakes -/

/-- A list of values may hold anything. -/
def AnyItems (_ : List Json) : Prop := True

/-- A list of values holds strings only. -/
def Strings (items : List Json) : Prop := ∀ v ∈ items, ∃ s, v = .string s

/-- An operand is of the kind that an operator takes, where some lists count as lists of values. -/
def Suits (IsList : List Json → Prop) (name : String) (operand : Json) : Prop :=
  match name, operand with
  | "$regex", .string _ | "$eq", .string _ | "$ne", .string _ | "$exists", .bool _ => True
  | "$in", .array items | "$nin", .array items => IsList items
  | _, _ => False

/-- An entry of an object is written in a wrong way. -/
inductive EntryMistake (IsList : List Json → Prop) : String → Json → Prop
  | notArray {key : String} {v : Json} (hkey : key ∈ ["$and", "$or", "$nor"]) (h : ∀ items, v ≠ .array items) :
    EntryMistake IsList key v
  | notObject {key : String} {v : Json} (hkey : key ∉ ["$and", "$or", "$nor"]) (h : ∀ members, v ≠ .object members) :
    EntryMistake IsList key v
  | noField {key : String} {v : Json} (hkey : key ∉ combinators) (hbody : key ≠ "body")
    (hheader : ∀ name, name ≠ "" → key ≠ "headers." ++ name) : EntryMistake IsList key v
  | noOperator {key : String} {members : List (String × Json)} (hkey : key ∉ combinators)
    (h : ∀ m ∈ members, m.1 ∉ operators) : EntryMistake IsList key (.object members)
  | operand {key name : String} {operand : Json} {members : List (String × Json)} (hkey : key ∉ combinators)
    (hmem : (name, operand) ∈ members) (hname : name ∈ operators) (h : ¬Suits IsList name operand) :
    EntryMistake IsList key (.object members)
  | pattern {key raw : String} {members : List (String × Json)} (hkey : key ∉ combinators)
    (hmem : ("$regex", .string raw) ∈ members) (h : (Pattern.compile raw).regex = none) :
    EntryMistake IsList key (.object members)

/-- A query is written in a wrong way: it is no object, it is empty, or one of its entries is wrong. -/
inductive Mistake (IsList : List Json → Prop) : Json → Prop
  | notObject {v : Json} (h : ∀ members, v ≠ .object members) : Mistake IsList v
  | empty : Mistake IsList (.object [])
  | entry {key : String} {v : Json} {members : List (String × Json)} (hmem : (key, v) ∈ members)
    (h : EntryMistake IsList key v) : Mistake IsList (.object members)

/-- Only an operand of its kind lets an operator hold. -/
theorem suits_of_holds {text name : String} {operand : Json} (h : Holds text name operand) :
    Suits AnyItems name operand := by
  unfold Holds at h
  split at h <;> first | exact trivial | exact h.elim

/-- In a condition that is satisfied all operators have operands of their kinds. -/
theorem Satisfied.suits {text name : String} {operand : Json} {members : List (String × Json)}
    (h : Satisfied text members) (hmem : (name, operand) ∈ members) (hname : name ∈ operators) :
    Suits AnyItems name operand := by
  rcases h.2 with ⟨-, hholds⟩ | ⟨-, habsence⟩
  · exact suits_of_holds (hholds _ hmem hname)
  · obtain ⟨rfl, rfl⟩ := Prod.mk.inj (habsence _ hmem hname)
    exact trivial

/-- In a condition that is satisfied all patterns compile. -/
theorem Satisfied.regex_ne_none {text raw : String} {members : List (String × Json)} (h : Satisfied text members)
    (hmem : ("$regex", .string raw) ∈ members) : (Pattern.compile raw).regex ≠ none := by
  intro hnone
  have hname : "$regex" ∈ operators := by decide
  rcases h.2 with ⟨-, hholds⟩ | ⟨-, habsence⟩
  · have hfirst : ((Pattern.compile raw).firstMatch? text).isSome := hholds _ hmem hname
    rw [Pattern.firstMatch?, hnone] at hfirst
    cases hfirst
  · obtain ⟨hexists, -⟩ := Prod.mk.inj (habsence _ hmem hname)
    exact absurd hexists (by decide)

/-- A condition that matches is satisfied by the text of some part of the page. -/
theorem exists_satisfied {key : String} {members : List (String × Json)} (hkey : key ∉ combinators)
    (h : ((Query.ofMember key (.object members)).outcome p).matched) : ∃ text, Satisfied text members := by
  obtain ⟨text, members, -, hv, hsat⟩ := (Query.matched_field_iff hkey _).mp h
  cases hv
  exact ⟨text, hsat⟩

theorem EntryMistake.not_matched {key : String} (h : EntryMistake AnyItems key v) :
    ¬((Query.ofMember key v).outcome p).matched := by
  intro hmatched
  cases h with
  | notArray hkey harray =>
    rw [Query.outcome_of_not_array hkey harray] at hmatched
    cases hmatched
  | notObject hkey hobject =>
    by_cases hfield : key ∈ combinators
    · obtain rfl : key = "$not" := by
        simp only [combinators, List.mem_cons, List.not_mem_nil, or_false] at hfield hkey
        tauto
      rw [(Query.outcome_of_not_object hobject).2] at hmatched
      cases hmatched
    · obtain ⟨-, members, -, hv, -⟩ := (Query.matched_field_iff hfield v).mp hmatched
      exact hobject members hv
  | noField hkey hbody hheader =>
    obtain ⟨text, -, htext, -⟩ := (Query.matched_field_iff hkey v).mp hmatched
    cases htext with
    | body => exact hbody rfl
    | header hname => exact hheader _ hname rfl
  | noOperator hkey hnone =>
    obtain ⟨text, ⟨m, hm, hname⟩, -⟩ := exists_satisfied hkey hmatched
    exact hnone m hm hname
  | operand hkey hmem hname hsuits =>
    obtain ⟨text, hsat⟩ := exists_satisfied hkey hmatched
    exact hsuits (hsat.suits hmem hname)
  | pattern hkey hmem hnone =>
    obtain ⟨text, hsat⟩ := exists_satisfied hkey hmatched
    exact hsat.regex_ne_none hmem hnone

/-- What is written in a wrong way never matches. -/
theorem Mistake.not_matched (h : Mistake AnyItems v) : ¬((Query.ofJson v).outcome p).matched := by
  intro hmatched
  obtain ⟨members, rfl, hne, hentries⟩ := (Query.matched_object_iff v).mp hmatched
  cases h with
  | notObject hobject => exact hobject members rfl
  | empty => exact hne rfl
  | entry hmem hentry => exact hentry.not_matched (hentries _ hmem)

/-! ## Items of lists -/

/-- In a condition that is satisfied, a list may take the place of another one for which its operator holds, too. -/
theorem Satisfied.of_holds_imp {text name : String} {items items' : List Json} {before after : List (String × Json)}
    (hname : name ∈ operators) (himp : Holds text name (.array items) → Holds text name (.array items'))
    (h : Satisfied text (before ++ (name, .array items) :: after)) :
    Satisfied text (before ++ (name, .array items') :: after) := by
  refine ⟨⟨(name, .array items'), by simp, hname⟩, ?_⟩
  rcases h.2 with ⟨htext, hholds⟩ | ⟨-, habsence⟩
  · simp only [List.forall_mem_append, List.forall_mem_cons] at hholds ⊢
    exact .inl ⟨htext, hholds.1, fun hop => himp (hholds.2.1 hop), hholds.2.2⟩
  · cases habsence (name, .array items) (by simp) hname

/-- What lies around an item of a list in a condition on a part of a page. -/
structure Listing where
  before : List (String × Json)
  path : String
  isField : path ∉ combinators
  operatorsBefore : List (String × Json)
  itemsBefore : List Json
  itemsAfter : List Json
  operatorsAfter : List (String × Json)
  after : List (String × Json)

namespace Listing

/-- The list with an item. -/
def items (l : Listing) (item : Json) : List Json := l.itemsBefore ++ item :: l.itemsAfter

/-- The query with an item in the list of an operator. -/
def fill (l : Listing) (name : String) (item : Json) : Json :=
  .object (l.before ++ (l.path, .object (l.operatorsBefore ++ (name, .array (l.items item)) :: l.operatorsAfter)) ::
    l.after)

theorem matched_fill_of_imp (l : Listing) {name : String} (hname : name ∈ operators) {x y : Json}
    (h : ∀ text, Holds text name (.array (l.items x)) → Holds text name (.array (l.items y))) :
    ((Query.ofJson (l.fill name x)).outcome p).matched → ((Query.ofJson (l.fill name y)).outcome p).matched := by
  rw [fill, fill, Query.matched_object_iff, Query.matched_object_iff]
  rintro ⟨members, hv, -, hall⟩
  cases hv
  refine ⟨_, rfl, by simp, ?_⟩
  simp only [List.forall_mem_append, List.forall_mem_cons, Query.matched_field_iff l.isField] at hall ⊢
  obtain ⟨hbefore, ⟨text, members, htext, hv, hsat⟩, hafter⟩ := hall
  cases hv
  exact ⟨hbefore, ⟨text, _, htext, rfl, hsat.of_holds_imp hname (h text)⟩, hafter⟩

/-- A text is in a list without the help of an item that is no string. -/
theorem mem_items_of_mem (l : Listing) {x : Json} (hx : ∀ text, x ≠ .string text) (y : Json) {text : String}
    (h : .string text ∈ l.items x) : .string text ∈ l.items y := by
  rcases List.mem_append.mp h with hbefore | hrest
  · exact List.mem_append_left _ hbefore
  rcases List.mem_cons.mp hrest with heq | hafter
  · exact absurd heq.symm (hx text)
  · exact List.mem_append_right _ (List.mem_cons_of_mem y hafter)

end Listing

/-- What stands in the place of a query that never matches can only add matches under an even number of negations, and
can only take them away under an odd number. So what is written in a wrong way, under no negation, does not match where
a query in its place would not. An item that is no string is no mistake of this kind: in a list of values to be found it
can only lose a detection, but in a list of values not to be found it can only cause one. -/
theorem matched_of_mistake (p : Page) :
    (∀ (place : List Query.Frame) (q : Query),
      (Even (Query.negations place) →
        ((Query.never.inside place).outcome p).matched → ((q.inside place).outcome p).matched) ∧
      (Odd (Query.negations place) →
        ((q.inside place).outcome p).matched → ((Query.never.inside place).outcome p).matched)) ∧
    (∀ (place : List Frame) (v w : Json), Mistake AnyItems v →
      ((Query.ofJson (inside v place)).outcome p).matched → ((Query.ofJson (inside w place)).outcome p).matched) ∧
    ∀ (place : List Frame) (l : Listing) (x y : Json), (∀ text, x ≠ .string text) →
      (((Query.ofJson (inside (l.fill "$in" x) place)).outcome p).matched →
        ((Query.ofJson (inside (l.fill "$in" y) place)).outcome p).matched) ∧
      (((Query.ofJson (inside (l.fill "$nin" y) place)).outcome p).matched →
        ((Query.ofJson (inside (l.fill "$nin" x) place)).outcome p).matched) := by
  refine ⟨fun place q => ?_, fun place v w h => ?_, fun place l x y hx => ⟨?_, ?_⟩⟩
  · exact Query.matched_inside_of_imp (fun hnever => absurd hnever Query.not_matched_never) place
  · exact matched_inside_mono (fun hmatched => absurd hmatched h.not_matched) place
  · have hin (text : String) : Holds text "$in" (.array (l.items x)) → Holds text "$in" (.array (l.items y)) :=
      l.mem_items_of_mem hx y
    exact matched_inside_mono (l.matched_fill_of_imp (by decide) hin) place
  · have hnin (text : String) : Holds text "$nin" (.array (l.items y)) → Holds text "$nin" (.array (l.items x)) :=
      mt (l.mem_items_of_mem hx y)
    exact matched_inside_mono (l.matched_fill_of_imp (by decide) hnin) place

/-- A page with a number as its body. -/
def numberPage : Page := ⟨"404", 200, []⟩

/-- The condition that an operator with an operand holds of the body. -/
def onBody (name : String) (operand : Json) : Json := .object [("body", .object [(name, operand)])]

/-- A place beside a query that matches every page with a body. -/
def besideBody : Frame := ⟨[], "$or", by decide, [], [onBody "$exists" (.bool true)], []⟩

/-- A place in a list of values for the body, before other items. -/
def listForBody (others : List Json) : Listing := ⟨[], "body", by decide, [], [], others, [], []⟩

/-- Under two negations the query that never matches gives way to another one, under one negation another one gives way
to it, a mistake gives way to anything, and a number in a list is passed over. -/
theorem matched_of_mistake_numberPage :
    (((Query.field .body [.eq "405"]).inside [.not, .none [] [.field .body [.exists true]]]).outcome
      numberPage).matched ∧
    ((Query.never.inside [.not]).outcome numberPage).matched ∧
    ((Query.ofJson (inside .null [besideBody])).outcome numberPage).matched ∧
    ((Query.ofJson (inside ((listForBody [.string "404"]).fill "$in" (.string "405")) [])).outcome numberPage).matched ∧
    ((Query.ofJson (inside ((listForBody []).fill "$nin" (.ofNat 404)) [])).outcome numberPage).matched := by
  obtain ⟨hplaces, hmistakes, hlists⟩ := matched_of_mistake numberPage
  have hwrong : Mistake AnyItems (onBody "$eq" (.ofNat 404)) :=
    .entry List.mem_cons_self (.operand (by decide) List.mem_cons_self (by decide) id)
  refine ⟨(hplaces [.not, .none [] [.field .body [.exists true]]] _).1 (by decide) (by decide +kernel),
    (hplaces [.not] (.field .body [.eq "405"])).2 (by decide) (by decide +kernel),
    hmistakes [besideBody] _ .null hwrong (by decide +kernel),
    (hlists [] (listForBody [.string "404"]) (.ofNat 404) (.string "405") nofun).1 (by decide +kernel),
    (hlists [] (listForBody []) (.ofNat 404) (.string "405") nofun).2 (by decide +kernel)⟩

/-- If a list of values is to hold strings only, then a mistake can cause a detection: a number in the place of a string
is passed over. -/
theorem not_forall_matched_of_mistake : ¬∀ (p : Page) (place : List Frame) (v w : Json), Mistake Strings v →
    ((Query.ofJson (inside v place)).outcome p).matched → ((Query.ofJson (inside w place)).outcome p).matched := by
  intro hall
  have hmistake : Mistake Strings (onBody "$nin" (.array [.ofNat 404])) := by
    refine .entry List.mem_cons_self (.operand (by decide) List.mem_cons_self (by decide) ?_)
    intro hstrings
    obtain ⟨s, hs⟩ := hstrings _ List.mem_cons_self
    cases hs
  have hmatched : ((Query.ofJson (onBody "$nin" (.array [.ofNat 404]))).outcome numberPage).matched := by
    decide +kernel
  have hmeant : ¬((Query.ofJson (onBody "$nin" (.array [.string "404"]))).outcome numberPage).matched := by
    decide +kernel
  exact hmeant (hall numberPage [] _ _ hmistake hmatched)

end Wire
end SiteProbe
