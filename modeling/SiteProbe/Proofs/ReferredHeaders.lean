import SiteProbe.Proofs.GrowingPages
import SiteProbe.Query.VersionRule

/-!
# Header fields that rules refer to

Of a page, queries and version rules see the body and the values of the header fields they refer to, and no more
(`Query.outcome_eq_of_values`). The letter case in which they refer to them makes no difference
(`Query.outcome_lowered`). On a page on which no name is there twice, a value is found wherever it stands
(`Headers.get?_eq_some_iff`), so that the order of the fields makes no difference either
(`Query.outcome_eq_of_agree`).
-/

namespace SiteProbe

/-! ## Fields in one place -/

namespace Headers

variable {hs gs : Headers} {names : List String} {name value : String}

/-- Where no name is there twice, a value is found wherever it stands. -/
theorem get?_eq_some_iff (h : hs.Pairwise fun h g => ¬sameName h.1 g.1) :
    hs.get? name = some value ↔ ∃ name', (name', value) ∈ hs ∧ sameName name' name := by
  induction hs with
  | nil => simp [get?]
  | cons e rest ih =>
    obtain ⟨hhead, hrest⟩ := List.pairwise_cons.mp h
    rw [get?_cons]
    split
    · rename_i hname
      constructor
      · intro hvalue
        exact ⟨e.1, by simp [← Option.some.inj hvalue], hname⟩
      · rintro ⟨name', hmem, hname'⟩
        rcases List.mem_cons.mp hmem with rfl | hmem
        · rfl
        · have hsame : e.1.toLower = name'.toLower := (sameName_iff.mp hname).trans (sameName_iff.mp hname').symm
          exact absurd (sameName_iff.mpr hsame) (hhead _ hmem)
    · rename_i hname
      rw [ih hrest]
      constructor
      · rintro ⟨name', hmem, hname'⟩
        exact ⟨name', List.mem_cons_of_mem e hmem, hname'⟩
      · rintro ⟨name', hmem, hname'⟩
        rcases List.mem_cons.mp hmem with rfl | hmem
        · exact absurd hname' hname
        · exact ⟨name', hmem, hname'⟩

/-- The fields of some names, with these in small letters. -/
def shown (hs : Headers) (names : List String) : Headers :=
  (hs.filter fun h => names.any (sameName h.1)).map fun h => (h.1.toLower, h.2)

theorem mem_shown_iff (hname : name ∈ names) :
    (name.toLower, value) ∈ hs.shown names ↔ ∃ name', (name', value) ∈ hs ∧ sameName name' name := by
  unfold shown
  rw [List.mem_map]
  constructor
  · rintro ⟨h, hmem, heq⟩
    obtain ⟨hlower, rfl⟩ := Prod.mk.inj heq
    exact ⟨h.1, (List.mem_filter.mp hmem).1, sameName_iff.mpr hlower⟩
  · rintro ⟨name', hmem, hsame⟩
    refine ⟨(name', value), List.mem_filter.mpr ⟨hmem, ?_⟩, by rw [sameName_iff.mp hsame]⟩
    exact List.any_eq_true.mpr ⟨name, hname, hsame⟩

/-- Of fields that show the same in whatever order, each name has one value. -/
theorem get?_eq_of_shown (h : hs.Pairwise fun h g => ¬sameName h.1 g.1) (h' : gs.Pairwise fun h g => ¬sameName h.1 g.1)
    (hshown : (hs.shown names).Perm (gs.shown names)) (hname : name ∈ names) : hs.get? name = gs.get? name := by
  apply Option.ext
  intro value
  rw [get?_eq_some_iff h, get?_eq_some_iff h', ← mem_shown_iff hname, ← mem_shown_iff hname]
  exact hshown.mem_iff

end Headers

/-! ## Fields in small letters -/

namespace Field

/-- The header name that a part of a page is referred to by. -/
def headerName? : Field → Option String
  | .header name => some name
  | _ => none

/-- A part of a page, referred to in small letters. -/
def lowered : Field → Field
  | .header name => .header name.toLower
  | f => f

variable {p p' : Page}

@[simp]
theorem value_lowered (f : Field) : f.lowered.value p = f.value p := by
  cases f with
  | header name =>
    have hname (h : String × String) : Headers.sameName h.1 name.toLower = Headers.sameName h.1 name := by
      have hcomm (a b : String) : Headers.sameName a b = Headers.sameName b a := Bool.beq_comm
      rw [hcomm, Headers.sameName_toLower, hcomm]
    simp only [lowered, value, Page.header?, Headers.get?, hname]
  | body => rfl
  | unknown path => rfl

/-- On pages with one body, a part is the same if its header field is. -/
theorem value_eq_of_agree {f : Field} (hbody : p.body = p'.body)
    (h : ∀ name, f.headerName? = some name → p.header? name = p'.header? name) : f.value p = f.value p' := by
  cases f with
  | body => exact hbody
  | header name => rw [value, value, h name rfl]
  | unknown path => rfl

end Field

/-! ## Queries and version rules -/

namespace Query

variable {p p' : Page} {q : Query}

mutual

/-- The parts of a page that a query refers to. -/
def fields : Query → List Field
  | .all qs => fieldsList qs
  | .any qs => fieldsList qs
  | .none qs => fieldsList qs
  | .not q => q.fields
  | .field f _ => [f]
  | .never => []

/-- The parts of a page that some queries refer to. -/
def fieldsList : List Query → List Field
  | [] => []
  | q :: rest => q.fields ++ fieldsList rest

end

mutual

/-- A query that refers to header fields in small letters. -/
def lowered : Query → Query
  | .all qs => .all (loweredList qs)
  | .any qs => .any (loweredList qs)
  | .none qs => .none (loweredList qs)
  | .not q => .not q.lowered
  | .field f ops => .field f.lowered ops
  | .never => .never

/-- Queries that refer to header fields in small letters. -/
def loweredList : List Query → List Query
  | [] => []
  | q :: rest => q.lowered :: loweredList rest

end

theorem mem_fieldsList {qs : List Query} {f : Field} (hq : q ∈ qs) (hf : f ∈ q.fields) : f ∈ fieldsList qs := by
  induction qs with
  | nil => cases hq
  | cons q' rest ih =>
    rw [fieldsList, List.mem_append]
    rcases List.mem_cons.mp hq with rfl | hq
    · exact .inl hf
    · exact .inr (ih hq)

theorem loweredList_eq (qs : List Query) : loweredList qs = qs.map lowered := by
  induction qs with
  | nil => rfl
  | cons q rest ih => rw [loweredList, ih, List.map_cons]

/-- Of a page, a query sees the values of the parts that it refers to. -/
theorem outcome_eq_of_values (h : ∀ f ∈ q.fields, f.value p = f.value p') : q.outcome p = q.outcome p' := by
  have hmap {qs : List Query} (ih : ∀ q ∈ qs, (∀ f ∈ q.fields, f.value p = f.value p') → q.outcome p = q.outcome p')
      (h : ∀ f ∈ fieldsList qs, f.value p = f.value p') : qs.map (outcome p) = qs.map (outcome p') :=
    List.map_congr_left fun q hq => ih q hq fun f hf => h f (mem_fieldsList hq hf)
  induction q using inductionOn with
  | all qs ih => rw [outcome, outcome, outcomeAll_eq, outcomeAll_eq, hmap ih h]
  | any qs ih => rw [outcome, outcome, outcomeAny_eq, outcomeAny_eq, hmap ih h]
  | none qs ih => rw [outcome, outcome, outcomeAny_eq, outcomeAny_eq, hmap ih h]
  | not q ih => rw [outcome, outcome, ih h]
  | field f ops => exact outcome_field_congr (h f List.mem_cons_self)
  | never => rfl

/-- The letter case of header names makes no difference. -/
theorem outcome_lowered (q : Query) : q.lowered.outcome p = q.outcome p := by
  have hmap {qs : List Query} (ih : ∀ q ∈ qs, q.lowered.outcome p = q.outcome p) :
      (loweredList qs).map (outcome p) = qs.map (outcome p) := by
    rw [loweredList_eq, List.map_map]
    exact List.map_congr_left ih
  induction q using inductionOn with
  | all qs ih => rw [lowered, outcome, outcome, outcomeAll_eq, outcomeAll_eq, hmap ih]
  | any qs ih => rw [lowered, outcome, outcome, outcomeAny_eq, outcomeAny_eq, hmap ih]
  | none qs ih => rw [lowered, outcome, outcome, outcomeAny_eq, outcomeAny_eq, hmap ih]
  | not q ih => rw [lowered, outcome, outcome, ih]
  | field f ops =>
    cases f with
    | header name =>
      have hvalue : (Field.header name.toLower).value p = (Field.header name).value p :=
        Field.value_lowered (.header name)
      cases ops with
      | nil => rfl
      | cons op rest => simp only [lowered, Field.lowered, outcome, fieldOutcome, hvalue]
    | body => rfl
    | unknown path => rfl
  | never => rfl

end Query

namespace VersionRule

variable {p p' : Page}

/-- A version rule that refers to a header field in small letters. -/
def lowered (r : VersionRule) : VersionRule := { r with field := r.field.lowered }

/-- Of a page, version rules see the values of the parts that they refer to. -/
theorem firstVersion?_eq_of_values {rules : List VersionRule} (h : ∀ r ∈ rules, r.field.value p = r.field.value p') :
    firstVersion? p rules = firstVersion? p' rules := by
  induction rules with
  | nil => rfl
  | cons r rest ih =>
    rw [List.forall_mem_cons] at h
    have hversion : version? p r = version? p' r := by rw [version?, version?, h.1]
    unfold firstVersion? at ih ⊢
    rw [List.findSome?_cons, List.findSome?_cons, hversion, ih h.2]

/-- The letter case of header names makes no difference. -/
theorem firstVersion?_lowered (rules : List VersionRule) :
    firstVersion? p (rules.map lowered) = firstVersion? p rules := by
  have hversion : version? p ∘ lowered = version? p := by
    funext r
    simp only [Function.comp_apply, version?, lowered, Field.value_lowered]
  unfold firstVersion?
  rw [List.findSome?_map, hversion]

end VersionRule

namespace Query

open VersionRule (firstVersion? firstVersion?_lowered firstVersion?_eq_of_values)

/-- The header names that a query and version rules refer to. -/
def headerNames (q : Query) (rules : List VersionRule) : List String :=
  (q.fields ++ rules.map (·.field)).filterMap Field.headerName?

/-- For all queries and version rules that are the same but for the letter case of header names: on two pages with one
body that have the same values under the names referred to, the outcomes and the extracted versions are the same. So
they are, whatever the status is, on pages to whose fields everything was offered in whatever order, if the fields of
the names referred to are the same but for their order and the letter case of their names. -/
theorem outcome_eq_of_agree (q q' : Query) (rules rules' : List VersionRule) (hq : q.lowered = q'.lowered)
    (hrules : rules.map VersionRule.lowered = rules'.map VersionRule.lowered) :
    (∀ p p' : Page, p.body = p'.body → (∀ name ∈ q.headerNames rules, p.header? name = p'.header? name) →
      q.outcome p = q'.outcome p' ∧ firstVersion? p rules = firstVersion? p' rules') ∧
    ∀ (body : String) (status status' : Nat) (os os' : List Offer),
      let p := Page.takeAll ⟨body, status, []⟩ os
      let p' := Page.takeAll ⟨body, status', []⟩ os'
      (p.headers.shown (q.headerNames rules)).Perm (p'.headers.shown (q.headerNames rules)) →
        q.outcome p = q'.outcome p' ∧ firstVersion? p rules = firstVersion? p' rules' := by
  have hagree (p p' : Page) (hbody : p.body = p'.body)
      (hnames : ∀ name ∈ q.headerNames rules, p.header? name = p'.header? name) :
      q.outcome p = q'.outcome p' ∧ firstVersion? p rules = firstVersion? p' rules' := by
    have hvalue (f : Field) (hf : f ∈ q.fields ++ rules.map (·.field)) : f.value p = f.value p' :=
      Field.value_eq_of_agree hbody fun name hname => hnames name (List.mem_filterMap.mpr ⟨f, hf, hname⟩)
    constructor
    · calc q.outcome p
          = q.outcome p' := outcome_eq_of_values fun f hf => hvalue f (List.mem_append_left _ hf)
        _ = q'.outcome p' := by rw [← outcome_lowered q, hq, outcome_lowered]
    · calc firstVersion? p rules
          = firstVersion? p' rules := firstVersion?_eq_of_values fun r hr =>
            hvalue r.field (List.mem_append_right _ (List.mem_map_of_mem hr))
        _ = firstVersion? p' rules' := by rw [← firstVersion?_lowered rules, hrules, firstVersion?_lowered]
  refine ⟨hagree, ?_⟩
  intro body status status' os os' p p' hshown
  have hbody : p.body = p'.body := by rw [(Page.grows_takeAll _ os).body, (Page.grows_takeAll _ os').body]
  have hunique (status : Nat) (os : List Offer) :
      (Page.takeAll ⟨body, status, []⟩ os).headers.Pairwise fun h g => ¬Headers.sameName h.1 g.1 := by
    rw [@Page.headers_takeAll _ [] rfl os]
    exact Headers.pairwise_firsts _
  exact hagree p p' hbody fun name hname =>
    Headers.get?_eq_of_shown (hunique status os) (hunique status' os') hshown hname

/-- The server and the version are told in one answer, behind a field of no interest. -/
def plainOffers : List Offer := [.merge [("date", "today"), ("server", "nginx"), ("x-version", "v11")]]

/-- The same is told field by field, and something else is said of the server when it is too late. -/
def loudOffers : List Offer :=
  [.withHeader "X-VERSION" "v11", .insert "Server" "nginx", .merge [("server", "edge"), ("x-note", "")]]

/-- A query on the server and on a field of the letter case that a rule has. -/
def serverQuery (server : String) : Query :=
  .all [.field (.header server) [.eq "nginx"], .not (.field (.header "age") [.exists true])]

/-- A rule that looks for the version in a field. -/
def headerRule (name : String) : VersionRule := ⟨.header name, .compile "v(1+)"⟩

/-- The pages have the same fields of interest, and the queries are the same but for their letter case. -/
theorem outcome_eq_of_agree_server :
    let p := Page.takeAll ⟨"Shop", 200, []⟩ plainOffers
    let p' := Page.takeAll ⟨"Shop", 404, []⟩ loudOffers
    (serverQuery "server").lowered = (serverQuery "SERVER").lowered ∧
    [headerRule "x-version"].map VersionRule.lowered = [headerRule "X-Version"].map VersionRule.lowered ∧
    (p.headers.shown ((serverQuery "server").headerNames [headerRule "x-version"])).Perm
      (p'.headers.shown ((serverQuery "server").headerNames [headerRule "x-version"])) ∧
    (serverQuery "SERVER").outcome p' = .hit "" ∧ firstVersion? p' [headerRule "X-Version"] = some "11" := by
  intro p p'
  have hquery : (serverQuery "server").lowered = (serverQuery "SERVER").lowered := by
    simp [serverQuery, lowered, loweredList, Field.lowered, Headers.toLower_eq]
  have hrules : [headerRule "x-version"].map VersionRule.lowered =
      [headerRule "X-Version"].map VersionRule.lowered := by
    simp [headerRule, VersionRule.lowered, Field.lowered, Headers.toLower_eq]
  have hshown : (p.headers.shown ((serverQuery "server").headerNames [headerRule "x-version"])).Perm
      (p'.headers.shown ((serverQuery "server").headerNames [headerRule "x-version"])) := by
    have hheaders : p.headers = Headers.firsts (plainOffers.flatMap Offer.fields) := @Page.headers_takeAll _ [] rfl _
    have hheaders' : p'.headers = Headers.firsts (loudOffers.flatMap Offer.fields) := @Page.headers_takeAll _ [] rfl _
    rw [hheaders, hheaders']
    simp [plainOffers, loudOffers, Offer.fields, Headers.firsts, Headers.shown, headerNames, serverQuery, headerRule,
      fields, fieldsList, Field.headerName?, Headers.sameName_eq_decide, Headers.toLower_eq]
    exact .swap _ _ []
  have hsame := (outcome_eq_of_agree _ _ _ _ hquery hrules).2 "Shop" 200 404 plainOffers loudOffers hshown
  have houtcome : (serverQuery "server").outcome p = .hit "" := by decide +kernel
  have hversion : firstVersion? p [headerRule "x-version"] = some "11" := by decide +kernel
  exact ⟨hquery, hrules, hshown, hsame.1 ▸ houtcome, hsame.2 ▸ hversion⟩

end Query
end SiteProbe
