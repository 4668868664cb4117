import SiteProbe.Proofs.Polarity

/-!
# Kinds of operands

An operator with an operand that is not of its kind is compiled to a mismatch (`Operator.ofJson?_eq_mismatched_iff`),
which holds of no value and is not content with a missing one, so that a condition with it matches no page
(`Wire.outcome_ofField_of_not_suits`). The items of a list are no operands: those that are no strings are passed over
(`Operator.ofJson?_filter`), and a list of values not to be found holds of a text without them
(`Wire.not_forall_outcome_ofField`).
-/

namespace SiteProbe

namespace Operator

/-- A mismatch is what an operator with an operand of a wrong kind is compiled to, and nothing else is. -/
theorem ofJson?_eq_mismatched_iff {name : String} (hname : name ∈ Wire.operators) (operand : Json) :
    ofJson? name operand = some (.mismatched name) ↔ ¬Wire.Suits Wire.AnyItems name operand := by
  simp only [Wire.operators, List.mem_cons, List.not_mem_nil, or_false] at hname
  rcases hname with rfl | rfl | rfl | rfl | rfl | rfl <;>
    cases operand <;> simp [ofJson?, strings?, Wire.Suits, Wire.AnyItems]

/-- Items that are no strings are passed over. -/
theorem ofJson?_filter (name : String) (items : List Json) :
    ofJson? name (.array (items.filter fun v => v.string?.isSome)) = ofJson? name (.array items) := by
  have hstrings : strings? (.array (items.filter fun v => v.string?.isSome)) = strings? (.array items) := by
    rw [strings?, strings?, List.filterMap_filter]
    congr 2
    funext v
    cases v.string? <;> rfl
  unfold ofJson?
  split <;> simp_all

end Operator

namespace Query

variable {p : Page}

/-- A condition with an operator that holds of no value, and is not content with a missing one, matches no page. -/
theorem outcome_ofField_of_unsatisfiable {m : String × Json} {members : List (String × Json)} {op : Operator}
    (hmem : m ∈ members) (hcompiled : Operator.ofJson? m.1 m.2 = some op)
    (hvalue : ∀ text, ¬(op.outcome text).matched) (hmissing : ¬op.expectsAbsence) (path : String) :
    (ofField path (.object members)).outcome p = .miss := by
  have hop : op ∈ Operator.ofMembers members := List.mem_filterMap.mpr ⟨m, hmem, hcompiled⟩
  by_cases hfield : ∃ text, Wire.FieldText p path text
  · obtain ⟨text, htext⟩ := hfield
    rw [outcome_ofField htext, if_neg (List.ne_nil_of_mem hop)]
    split
    · have hall : (Operator.ofMembers members).all Operator.expectsAbsence = false :=
        List.all_eq_false.mpr ⟨op, hop, hmissing⟩
      rw [hall]
      rfl
    · refine (Outcome.plain_all _).eq_miss fun hmatched => ?_
      exact hvalue text (Outcome.matched_all.mp hmatched _ (List.mem_map_of_mem hop))
  · refine outcome_ofField_eq_miss ?_
    rintro ⟨text, -, htext, -⟩
    exact hfield ⟨text, htext⟩

/-- Only the compiled operators count. -/
theorem ofField_congr {members members' : List (String × Json)}
    (h : Operator.ofMembers members = Operator.ofMembers members') (path : String) :
    ofField path (.object members) = ofField path (.object members') := by
  unfold Operator.ofMembers at h
  unfold ofField
  cases Field.ofPath path with
  | unknown other => rfl
  | body => simp only [h]
  | header name => simp only [h]

end Query

namespace Wire

/-- Whatever the part of the page and its value are, and whatever the other operators: a condition with an operand that
is not of the kind of its operator does not match. The items of a list that are no strings are passed over; if there is
no other item, the list of values to be found is empty, and a condition with it does not match, either. -/
theorem outcome_ofField_of_not_suits (p : Page) (path : String) :
    (∀ (name : String) (operand : Json) (members : List (String × Json)), (name, operand) ∈ members →
      name ∈ operators → ¬Suits AnyItems name operand → (Query.ofField path (.object members)).outcome p = .miss) ∧
    (∀ (name : String) (items : List Json) (before after : List (String × Json)),
      Query.ofField path (.object (before ++ (name, .array items) :: after)) =
        Query.ofField path (.object (before ++
          (name, .array (items.filter fun v => v.string?.isSome)) :: after))) ∧
    ∀ (items : List Json) (members : List (String × Json)), ("$in", .array items) ∈ members →
      (∀ v ∈ items, ∀ text, v ≠ .string text) → (Query.ofField path (.object members)).outcome p = .miss := by
  refine ⟨fun name operand members hmem hname hsuits => ?_, fun name items before after => ?_,
    fun items members hmem hitems => ?_⟩
  · have hcompiled := (Operator.ofJson?_eq_mismatched_iff hname operand).mpr hsuits
    exact Query.outcome_ofField_of_unsatisfiable hmem hcompiled (fun _ => Bool.false_ne_true) Bool.false_ne_true path
  · refine Query.ofField_congr ?_ path
    simp only [Operator.ofMembers, List.filterMap_append, List.filterMap_cons, Operator.ofJson?_filter]
  · have hcompiled : Operator.ofJson? "$in" (.array items) = some (.oneOf (items.filterMap Json.string?)) := rfl
    have hnone (text : String) : text ∉ items.filterMap Json.string? :=
      fun htext => hitems _ (Operator.mem_filterMap_string?.mp htext) text rfl
    refine Query.outcome_ofField_of_unsatisfiable hmem hcompiled (fun text hmatched => hnone text ?_)
      Bool.false_ne_true path
    exact List.contains_iff_mem.mp hmatched

/-- The conditions that the body exists and is a number, or is in a list of numbers. -/
theorem outcome_ofField_of_not_suits_numbers :
    let present : String × Json := ("$exists", .bool true)
    (Query.ofField "body" (.object [present, ("$eq", .ofNat 404)])).outcome numberPage = .miss ∧
    (Query.ofField "body" (.object [present, ("$in", .array [.ofNat 404])])).outcome numberPage = .miss := by
  intro present
  obtain ⟨hkinds, -, hlist⟩ := outcome_ofField_of_not_suits numberPage "body"
  refine ⟨hkinds "$eq" (.ofNat 404) _ (.tail _ (.head _)) (by decide) id,
    hlist [.ofNat 404] _ (.tail _ (.head _)) fun v hv text => ?_⟩
  obtain rfl := List.mem_singleton.mp hv
  exact nofun

/-- If a list of values is to hold strings only, then a condition with an operand of a wrong kind can match: a number in
a list of values not to be found is passed over. -/
theorem not_forall_outcome_ofField : ¬∀ (p : Page) (path name : String) (operand : Json)
    (members : List (String × Json)), (name, operand) ∈ members → name ∈ operators → ¬Suits Strings name operand →
      ¬((Query.ofField path (.object members)).outcome p).matched := by
  intro hall
  have hsuits : ¬Suits Strings "$nin" (.array [.ofNat 404]) := by
    intro hstrings
    obtain ⟨text, htext⟩ := hstrings _ List.mem_cons_self
    cases htext
  have hmatched : ((Query.ofField "body" (.object [("$nin", .array [.ofNat 404])])).outcome numberPage).matched := by
    decide +kernel
  exact hall numberPage "body" "$nin" _ _ List.mem_cons_self (by decide) hsuits hmatched

end Wire
end SiteProbe
