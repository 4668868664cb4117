import SiteProbe.Proofs.OfferedHeaders
import SiteProbe.Proofs.VersionSources

/-!
# Pages with more header fields

Whatever is offered to a page, it keeps its body and the values of its header fields (`Page.Grows`). A query without
negations, in which nothing is expected to be missing, needs values that are there (`Query.Affirmative`): once it
matches a page, it matches the page with more header fields, too (`Query.matched_takeAll`).
-/

namespace SiteProbe

namespace Page

variable {p p' p'' : Page}

/-- A page has the body of another one and all of its header values, and perhaps more. -/
structure Grows (p p' : Page) : Prop where
  body : p'.body = p.body
  header? : ∀ name value, p.header? name = some value → p'.header? name = some value

theorem Grows.refl (p : Page) : Grows p p where
  body := rfl
  header? _ _ h := h

theorem Grows.trans (h : Grows p p') (h' : Grows p' p'') : Grows p p'' where
  body := h'.body.trans h.body
  header? name value hvalue := h'.header? name value (h.header? name value hvalue)

/-- A part of a page that has a value keeps it. -/
theorem Grows.value_eq (h : Grows p p') {f : Field} (hne : f.value p ≠ "") : f.value p' = f.value p := by
  cases f with
  | body => exact h.body
  | header name =>
    cases hvalue : p.header? name with
    | none =>
      rw [Field.value, hvalue] at hne
      exact absurd rfl hne
    | some value => rw [Field.value, Field.value, hvalue, h.header? name value hvalue]
  | unknown path => exact absurd rfl hne

/-- What is offered counts behind what is there. -/
theorem header?_take (p : Page) (o : Offer) (name : String) :
    (p.take o).header? name = (p.header? name).or (Headers.get? o.fields name) := by
  cases o with
  | insert name' value => exact Headers.get?_offer p.headers name' value name
  | withHeader name' value => exact Headers.get?_offer p.headers name' value name
  | merge hop =>
    rw [Offer.fields, Headers.get?_firsts]
    exact Headers.get?_offerAll p.headers hop name

theorem grows_take (p : Page) (o : Offer) : Grows p (p.take o) where
  body := by cases o <;> rfl
  header? name value h := by rw [header?_take, h, Option.some_or]

theorem grows_takeAll (p : Page) (os : List Offer) : Grows p (p.takeAll os) := by
  induction os generalizing p with
  | nil => exact .refl p
  | cons o rest ih => exact (grows_take p o).trans (ih (p.take o))

end Page

namespace Query

variable {p p' : Page} {q : Query} {f : Field} {ops : List Operator}

/-- A query without negations, in which no part of a page is expected to be missing. -/
inductive Affirmative : Query → Prop
  | all {qs : List Query} (h : ∀ q ∈ qs, Affirmative q) : Affirmative (.all qs)
  | any {qs : List Query} (h : ∀ q ∈ qs, Affirmative q) : Affirmative (.any qs)
  | field {f : Field} {ops : List Operator} (h : .exists false ∉ ops) : Affirmative (.field f ops)
  | never : Affirmative .never

/-- Of a page, a condition sees the value of its field alone. -/
theorem outcome_field_congr (h : f.value p' = f.value p) : (field f ops).outcome p' = (field f ops).outcome p := by
  cases f <;> cases ops <;> simp only [outcome, fieldOutcome, h]

/-- A condition that matches has operators. -/
theorem ne_nil_of_matched (h : ((field f ops).outcome p).matched) : ops ≠ [] := by
  rintro rfl
  cases f <;> exact Bool.false_ne_true h

/-- If nothing is expected to be missing, a condition that matches has a value. -/
theorem value_ne_of_matched (hops : .exists false ∉ ops) (h : ((field f ops).outcome p).matched) :
    f.value p ≠ "" := by
  obtain ⟨op, hop⟩ := List.exists_mem_of_ne_nil ops (ne_nil_of_matched h)
  refine value_ne_of_mem hop ?_ h
  intro habsence
  cases op with
  | «exists» expected =>
    obtain rfl : expected = false := by simpa [Operator.expectsAbsence] using habsence
    exact hops hop
  | _ => cases habsence

/-- A query without negations that matches a page matches each page that this one can grow to. -/
theorem Affirmative.matched_of_grows (h : q.Affirmative) (hgrows : p.Grows p') (hmatched : (q.outcome p).matched) :
    (q.outcome p').matched := by
  induction h with
  | all _ ih =>
    rw [matched_all] at hmatched ⊢
    intro q hq
    exact ih q hq (hmatched q hq)
  | any _ ih =>
    rw [matched_any] at hmatched ⊢
    obtain ⟨q, hq, hmatched⟩ := hmatched
    exact ⟨q, hq, ih q hq hmatched⟩
  | field hops =>
    rw [outcome_field_congr (hgrows.value_eq (value_ne_of_matched hops hmatched))]
    exact hmatched
  | never => exact absurd hmatched not_matched_never

/-- Whatever header fields are offered to a page, one by one or those of whole answers, a query without negations that
matches the page still matches it. The body is as before. -/
theorem matched_takeAll (p : Page) (os : List Offer) (q : Query) (h : q.Affirmative)
    (hmatched : (q.outcome p).matched) :
    (p.takeAll os).body = p.body ∧ (q.outcome (p.takeAll os)).matched := by
  have hgrows := Page.grows_takeAll p os
  exact ⟨hgrows.body, h.matched_of_grows hgrows hmatched⟩

/-- A page from a server that tells its name. -/
def shopPage : Page := ⟨"Shop 2", 200, [("Server", "nginx")]⟩

/-- Neither of two names is the server's, and a note is there or the body is that of a shop. -/
def shopQuery : Query :=
  .all [.field (.header "server") [.ne "edge", .noneOf ["apache", "edge"]],
    .any [.field (.header "X-Note") [.exists true], .field .body [.regex (.compile "^Shop")]]]

/-- The name that the server is not to have comes too late, and a note comes along. -/
theorem matched_takeAll_shopPage : shopQuery.Affirmative ∧ (shopQuery.outcome shopPage).matched ∧
    (shopQuery.outcome (shopPage.takeAll Page.cookieOffers)).matched := by
  have haffirmative : shopQuery.Affirmative := by
    apply Affirmative.all
    rw [List.forall_mem_cons, List.forall_mem_singleton]
    constructor
    · exact .field (by simp)
    · apply Affirmative.any
      rw [List.forall_mem_cons, List.forall_mem_singleton]
      exact ⟨.field (by simp), .field (by simp)⟩
  have hmatched : (shopQuery.outcome shopPage).matched := by decide +kernel
  exact ⟨haffirmative, hmatched, (matched_takeAll shopPage Page.cookieOffers shopQuery haffirmative hmatched).2⟩

end Query
end SiteProbe
