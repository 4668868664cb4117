import SiteProbe.Proofs.Headers

/-!
# Header fields over time

Fields are offered to a page one by one, or all those of an answer at once, of which the first of each name count
(`Offer.fields`). In whatever order that happens, the page has the first field of each name of all that were offered
(`Headers.firsts`, `Page.headers_takeAll`). So no name is there twice, what is there stays as it is, and looking a name
up gives the first value that was ever offered under it (`Page.takeAll_firsts`).
-/

namespace SiteProbe

namespace Headers

variable {hs : Headers} {name : String}

/-! ## First fields -/

/-- The first field of each name. -/
def firsts : List (String × String) → Headers
  | [] => []
  | h :: rest => h :: (firsts rest).filter fun g => !sameName h.1 g.1

theorem get?_cons (h : String × String) (rest : Headers) (name : String) :
    get? (h :: rest) name = if sameName h.1 name then some h.2 else rest.get? name := by
  unfold get?
  rw [List.find?_cons]
  cases sameName h.1 name <;> rfl

/-- Fields of other names make no difference. -/
theorem get?_filter {keep : String × String → Bool} (hkeep : ∀ h, sameName h.1 name → keep h) (hs : Headers) :
    get? (hs.filter keep) name = hs.get? name := by
  unfold get?
  rw [List.find?_filter]
  congr 2
  funext h
  cases hname : sameName h.1 name with
  | false => simp
  | true => simp [hkeep h hname]

/-- Behind other fields, first fields count if their names are new. -/
theorem firsts_append (hs gs : Headers) :
    firsts (hs ++ gs) = firsts hs ++ (firsts gs).filter fun g => (hs.get? g.1).isNone := by
  induction hs with
  | nil => exact (List.filter_eq_self.mpr fun _ _ => rfl).symm
  | cons h rest ih =>
    rw [List.cons_append, firsts, firsts, ih, List.filter_append, List.filter_filter, List.cons_append]
    congr 2
    refine List.filter_congr fun g _ => ?_
    rw [get?_cons]
    cases sameName h.1 g.1 <;> simp

theorem get?_firsts (hs : Headers) (name : String) : (firsts hs).get? name = hs.get? name := by
  induction hs with
  | nil => rfl
  | cons h rest ih =>
    rw [firsts, get?_cons, get?_cons]
    cases hname : sameName h.1 name with
    | true => rfl
    | false =>
      -- what the filter takes away has the name of `h`, which is not looked up
      have hother : ∀ g : String × String, sameName g.1 name → !sameName h.1 g.1 := by
        intro g hg
        have hne : h.1.toLower ≠ name.toLower := fun heq => by simp [sameName_iff.mpr heq] at hname
        simpa [sameName, sameName_iff.mp hg] using hne
      simpa [get?_filter hother] using ih

/-- No name is there twice. -/
theorem pairwise_firsts (hs : Headers) : (firsts hs).Pairwise fun h g => ¬sameName h.1 g.1 := by
  induction hs with
  | nil => exact .nil
  | cons h rest ih =>
    rw [firsts, List.pairwise_cons]
    refine ⟨fun g hg => ?_, ih.filter _⟩
    simpa using (List.mem_filter.mp hg).2

theorem firsts_eq_self (h : hs.Pairwise fun h g => ¬sameName h.1 g.1) : firsts hs = hs := by
  induction hs with
  | nil => rfl
  | cons h rest ih =>
    obtain ⟨hhead, hrest⟩ := List.pairwise_cons.mp h
    rw [firsts, ih hrest, List.filter_eq_self.mpr]
    intro g hg
    simpa using hhead g hg

/-! ## Offers -/

/-- To offer a field is to put it behind those that were offered before. -/
theorem offer_firsts (hs : Headers) (name value : String) :
    ((firsts hs).offer name value).1 = firsts (hs ++ [(name, value)]) := by
  have hsingle : firsts [(name, value)] = [(name, value)] := rfl
  rw [firsts_append, hsingle, offer, get?_firsts]
  cases hname : hs.get? name <;> simp [hname]

theorem offerAll_firsts (hs es : Headers) : ((firsts hs).offerAll es).1 = firsts (hs ++ es) := by
  induction es generalizing hs with
  | nil => rw [List.append_nil]; rfl
  | cons e rest ih => rw [offerAll_cons, offer_firsts, ih, List.append_assoc, List.singleton_append]

/-- Only the first one of fields of one name need be offered. -/
theorem firsts_append_firsts (hs es : Headers) : firsts (hs ++ firsts es) = firsts (hs ++ es) := by
  rw [firsts_append, firsts_eq_self (pairwise_firsts es), firsts_append]

/-- What is counted is what is added. -/
theorem length_offerAll (hs : Headers) (es : List (String × String)) :
    (hs.offerAll es).1.length = hs.length + (hs.offerAll es).2 := by
  induction es generalizing hs with
  | nil => rfl
  | cons e rest ih =>
    have hoffer : (hs.offer e.1 e.2).1.length = hs.length + (hs.offer e.1 e.2).2.toNat := by
      unfold offer
      split <;> simp
    rw [offerAll_cons, ih, hoffer]
    omega

/-- Fields whose names are all there are offered in vain. -/
theorem offerAll_eq_self {es : List (String × String)} (h : ∀ e ∈ es, (hs.get? e.1).isSome) :
    hs.offerAll es = (hs, 0) := by
  induction es with
  | nil => rfl
  | cons e rest ih =>
    rw [List.forall_mem_cons] at h
    have hoffer : hs.offer e.1 e.2 = (hs, false) := if_pos h.1
    rw [offerAll_cons, hoffer, ih h.2]
    rfl

end Headers

open Headers

/-- What is offered to a page: a field, with or without an answer whether it was added, or the fields of a hop. -/
inductive Offer where
  | insert (name value : String)
  | withHeader (name value : String)
  | merge (hop : List (String × String))

/-- The fields that are offered. A hop offers the first one of each name. -/
def Offer.fields : Offer → Headers
  | .insert name value => [(name, value)]
  | .withHeader name value => [(name, value)]
  | .merge hop => firsts hop

namespace Page

/-- Take what is offered. -/
def take (p : Page) : Offer → Page
  | .insert name value => { p with headers := (p.headers.offer name value).1 }
  | .withHeader name value => p.withHeader name value
  | .merge hop => { p with headers := (p.headers.offerAll hop).1 }

/-- Take all that is offered, one after the other. -/
def takeAll (p : Page) (os : List Offer) : Page := os.foldl take p

theorem headers_take {p : Page} {hs : Headers} (h : p.headers = firsts hs) (o : Offer) :
    (p.take o).headers = firsts (hs ++ o.fields) := by
  cases o with
  | insert name value => rw [take, h, offer_firsts]; rfl
  | withHeader name value => rw [take, withHeader, h, offer_firsts]; rfl
  | merge hop => rw [take, h, offerAll_firsts, Offer.fields, firsts_append_firsts]

/-- A page has the first field of each name of all that were offered. -/
theorem headers_takeAll {p : Page} {hs : Headers} (h : p.headers = firsts hs) (os : List Offer) :
    (p.takeAll os).headers = firsts (hs ++ os.flatMap Offer.fields) := by
  induction os generalizing p hs with
  | nil => simpa [takeAll] using h
  | cons o rest ih =>
    have hstep : p.takeAll (o :: rest) = (p.take o).takeAll rest := rfl
    rw [hstep, ih (headers_take h o), List.append_assoc, List.flatMap_cons]

/-- The names of a hop that was offered are all there. -/
theorem isSome_get?_of_offered {os : List Offer} {hop : List (String × String)} (h : .merge hop ∈ os) :
    ∀ e ∈ hop, (get? (os.flatMap Offer.fields) e.1).isSome := by
  intro e he
  obtain ⟨before, after, rfl⟩ := List.append_of_mem h
  have hfound : (get? hop e.1).isSome := by
    rw [get?, Option.isSome_map, List.find?_isSome]
    exact ⟨e, he, sameName_iff.mpr rfl⟩
  rw [List.flatMap_append, List.flatMap_cons, get?_append, get?_append, Offer.fields, get?_firsts]
  simp [hfound]

/-- Whatever is offered to a page without header fields, in any order: it has the first field of each name of all that
were offered, so that no name is there twice; what is there at one time is at the front of what is there later; looking
a name up gives the first value that was offered under it; a hop is said to add as many fields as it does; and a hop
that was offered before adds nothing. -/
theorem takeAll_firsts (body : String) (status : Nat) (before between : List Offer) :
    let empty : Page := ⟨body, status, []⟩
    let earlier := empty.takeAll before
    let later := empty.takeAll (before ++ between)
    earlier.headers = firsts (before.flatMap Offer.fields) ∧
    (earlier.headers.Pairwise fun h g => ¬sameName h.1 g.1) ∧
    earlier.headers <+: later.headers ∧
    (∀ name, earlier.header? name =
      ((before.flatMap Offer.fields).find? fun field => sameName field.1 name).map (·.2)) ∧
    (∀ hop, (earlier.take (.merge hop)).headers.length =
      earlier.headers.length + (earlier.headers.offerAll hop).2) ∧
    ∀ hop, .merge hop ∈ before → earlier.headers.offerAll hop = (earlier.headers, 0) := by
  intro empty earlier later
  have hearlier : earlier.headers = firsts (before.flatMap Offer.fields) := @headers_takeAll empty [] rfl before
  have hlater : later.headers = firsts ((before ++ between).flatMap Offer.fields) := @headers_takeAll empty [] rfl _
  refine ⟨hearlier, ?_, ?_, fun name => ?_, fun hop => ?_, fun hop hhop => ?_⟩
  · rw [hearlier]
    exact pairwise_firsts _
  · rw [hearlier, hlater, List.flatMap_append, firsts_append]
    exact List.prefix_append _ _
  · rw [header?, hearlier, get?_firsts]
    rfl
  · exact length_offerAll earlier.headers hop
  · refine offerAll_eq_self fun e he => ?_
    rw [hearlier, get?_firsts]
    exact isSome_get?_of_offered hhop e he

/-- The fields of an answer that sets two cookies. -/
def cookieAnswer : List (String × String) :=
  [("server", "origin"), ("set-cookie", "a=1"), ("set-cookie", "b=2"), ("x-note", "")]

/-- That answer, behind the server's name from elsewhere and before a note that comes too late. -/
def cookieOffers : List Offer := [.withHeader "Server" "edge", .merge cookieAnswer, .insert "X-Note" "late"]

/-- Each cookie but the first one is lost, and a note without words counts. -/
theorem takeAll_firsts_cookies :
    let page := Page.takeAll ⟨"", 200, []⟩ cookieOffers
    page.headers = [("Server", "edge"), ("set-cookie", "a=1"), ("x-note", "")] ∧
    page.header? "SET-COOKIE" = some "a=1" ∧ page.header? "X-NOTE" = some "" ∧
    page.headers.offerAll cookieAnswer = (page.headers, 0) := by
  intro page
  obtain ⟨hheaders, -, -, hlookup, -, hagain⟩ := takeAll_firsts "" 200 cookieOffers []
  have hanswer : .merge cookieAnswer ∈ cookieOffers := .tail _ (.head _)
  refine ⟨?_, ?_, ?_, hagain cookieAnswer hanswer⟩
  · rw [hheaders]
    simp [cookieOffers, cookieAnswer, Offer.fields, firsts, sameName_eq_decide]
  · rw [hlookup]
    simp [cookieOffers, cookieAnswer, Offer.fields, firsts, sameName_eq_decide]
  · rw [hlookup]
    simp [cookieOffers, cookieAnswer, Offer.fields, firsts, sameName_eq_decide]

end Page
end SiteProbe
