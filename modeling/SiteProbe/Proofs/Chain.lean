import SiteProbe.Proofs.Headers
import SiteProbe.Web.Fetch

/-!
# Chains of responses

A fetch walks along responses: the first one comes from the URL that is asked for, and each one sends its reader on to
the URL of the next (`Response.LeadsTo`), as far as hops are left (`Walk`). The page gathers what they bring
(`gathered_gatherAll`):

- the body is that of all responses in order, a line break between those that are not empty (`body_gatherAll`);
- a header field has the value of the first response that has it (`header?_gatherAll`);
- the status is the last one (`status_gatherAll`).
-/

namespace SiteProbe

/-- A response: an answer whose body was read to its end, and the URL that it came from. -/
structure Response where
  url : Url
  reply : Reply
  body : List UInt8
  whole : reply.body = .ok body

namespace Response

/-- The text of the body. -/
def text (r : Response) : String := Utf8.decodeLossy r.body

/-- The first value of a header field. -/
def value? (r : Response) (name : String) : Option String :=
  (r.reply.headers.find? fun h => Headers.sameName h.1 name).map fun h => Utf8.decodeLossy h.2

/-- A redirect leads to a URL if its location does, and if that is on the web proper and on the same host. -/
structure LeadsTo (r : Response) (next : Url) : Prop where
  redirect : 300 ≤ r.reply.status ∧ r.reply.status < 400
  location : ∃ location, r.reply.location? = some location ∧ r.url.resolve? location = some next
  isHttp : next.isHttp
  sameHost : r.url.sameHost next

end Response

/-! ## Walks -/

/-- A walk along responses, which follows at most `hops` of them to the next one: it goes on exactly as far as it is
led and hops are left. -/
structure Walk (hops : Nat) (start : Url) (chain : List Response) : Prop where
  starts : ∃ r, chain.head? = some r ∧ r.url = start
  goes_on_iff : ∀ i, (h : i < chain.length) → (i + 1 < chain.length ↔ i < hops ∧ ∃ next, chain[i].LeadsTo next)
  leads : ∀ i, (h : i + 1 < chain.length) → chain[i].LeadsTo chain[i + 1].url

namespace Walk

variable {hops : Nat} {start next : Url} {r : Response} {chain : List Response}

theorem ne_nil (h : Walk hops start chain) : chain ≠ [] := by
  obtain ⟨r, hr, -⟩ := h.starts
  rintro rfl
  cases hr

/-- A walk ends at a response that leads nowhere, and where no hop is left. -/
theorem singleton (h : hops = 0 ∨ ¬∃ next, r.LeadsTo next) : Walk hops r.url [r] where
  starts := ⟨r, rfl, rfl⟩
  goes_on_iff i hi := by
    obtain rfl : i = 0 := by simpa using hi
    simp only [List.length_singleton, Nat.lt_irrefl, List.getElem_singleton, false_iff, not_and, Nat.zero_add]
    intro hpos hnext
    rcases h with rfl | h
    · exact absurd hpos (Nat.lt_irrefl 0)
    · exact h hnext
  leads i hi := by simp at hi

/-- A response that leads to the start of a walk goes before it. -/
theorem cons (hr : r.LeadsTo next) (h : Walk hops next chain) : Walk (hops + 1) r.url (r :: chain) where
  starts := ⟨r, rfl, rfl⟩
  goes_on_iff i hi := by
    cases i with
    | zero =>
      have hpos := List.length_pos_iff.mpr h.ne_nil
      simp only [List.length_cons, List.getElem_cons_zero]
      exact ⟨fun _ => ⟨by omega, next, hr⟩, fun _ => by omega⟩
    | succ i =>
      simp only [List.length_cons, List.getElem_cons_succ, Nat.add_lt_add_iff_right] at hi ⊢
      exact h.goes_on_iff i hi
  leads i hi := by
    cases i with
    | zero =>
      obtain ⟨r', hhead, hurl⟩ := h.starts
      cases chain with
      | nil => cases hhead
      | cons r'' rest =>
        cases hhead
        simpa [hurl] using hr
    | succ i =>
      simp only [List.length_cons, List.getElem_cons_succ, Nat.add_lt_add_iff_right] at hi ⊢
      exact h.leads i hi

/-- A walk that begins with a response is over, or goes on where that response leads. -/
theorem cons_cases (h : Walk hops start (r :: chain)) : r.url = start ∧
    (chain = [] ∧ (hops = 0 ∨ ¬∃ next, r.LeadsTo next) ∨
      ∃ n next, hops = n + 1 ∧ r.LeadsTo next ∧ Walk n next chain) := by
  obtain ⟨r', hhead, hurl⟩ := h.starts
  cases hhead
  refine ⟨hurl, ?_⟩
  cases chain with
  | nil =>
    refine .inl ⟨rfl, ?_⟩
    rcases Nat.eq_zero_or_pos hops with h0 | hpos
    · exact .inl h0
    · exact .inr fun hnext => absurd ((h.goes_on_iff 0 (by simp)).mpr ⟨hpos, hnext⟩) (by simp)
  | cons r' rest =>
    have hon := (h.goes_on_iff 0 (by simp)).mp (by simp)
    obtain ⟨n, rfl⟩ : ∃ n, hops = n + 1 := ⟨hops - 1, by omega⟩
    refine .inr ⟨n, r'.url, rfl, h.leads 0 (by simp), ⟨r', rfl, rfl⟩, fun i hi => ?_, fun i hi => ?_⟩
    · have hi' := h.goes_on_iff (i + 1) (by simpa using hi)
      simp only [List.length_cons, List.getElem_cons_succ, Nat.add_lt_add_iff_right] at hi' ⊢
      exact hi'
    · exact h.leads (i + 1) (by simpa using hi)

end Walk

/-! ## What a page gathers -/

namespace Page

/-- Take up the responses of a chain. -/
def gatherAll (p : Page) (chain : List Response) : Page := chain.foldl (fun p r => p.gather r.reply r.body) p

/-- A body and a text behind it, a line break between them if neither is empty. -/
theorem body_gather (p : Page) (reply : Reply) (bytes : List UInt8) :
    (p.gather reply bytes).body = "\n".intercalate ([p.body, Utf8.decodeLossy bytes].filter (· ≠ "")) := by
  unfold gather
  by_cases hp : p.body = ""
  · by_cases ht : Utf8.decodeLossy bytes = "" <;> simp [hp, ht]
  · by_cases ht : Utf8.decodeLossy bytes = "" <;> simp [hp, ht]

/-- Texts that are joined are empty only if there are none. -/
theorem intercalate_ne_empty {s : String} {ss : List String} (hs : s ≠ "") :
    "\n".intercalate (s :: ss) ≠ "" := by
  cases ss with
  | nil => simpa using hs
  | cons t ts => simp [hs]

/-- Joined texts that are joined with more texts. -/
theorem intercalate_filter_cons_intercalate (ss ts : List String) :
    "\n".intercalate (("\n".intercalate (ss.filter (· ≠ "")) :: ts).filter (· ≠ "")) =
      "\n".intercalate ((ss ++ ts).filter (· ≠ "")) := by
  rw [List.filter_append]
  cases hss : ss.filter (· ≠ "") with
  | nil => simp
  | cons s ss' =>
    have hs : s ≠ "" := by
      have hmem : s ∈ ss.filter (· ≠ "") := by rw [hss]; exact List.mem_cons_self
      simpa using (List.mem_filter.mp hmem).2
    rw [List.filter_cons_of_pos (by simpa using intercalate_ne_empty hs)]
    by_cases hts : ts.filter (· ≠ "") = []
    · rw [hts, String.intercalate_singleton, List.append_nil]
    · rw [String.intercalate_cons_of_ne_nil hts, String.intercalate_append_of_ne_nil (List.cons_ne_nil s ss') hts]

/-- The body of a page is made of the texts of all responses that are not empty. -/
theorem body_gatherAll (p : Page) (chain : List Response) :
    (p.gatherAll chain).body = "\n".intercalate ((p.body :: chain.map (·.text)).filter (· ≠ "")) := by
  induction chain generalizing p with
  | nil =>
    by_cases hp : p.body = "" <;> simp [gatherAll, hp]
  | cons r rest ih =>
    rw [gatherAll, List.foldl_cons, ← gatherAll, ih, body_gather, intercalate_filter_cons_intercalate]
    rfl

/-- A header field of a page has the first value that is taken up. -/
theorem header?_gatherAll (p : Page) (chain : List Response) (name : String) :
    (p.gatherAll chain).header? name = (p.header? name).or (chain.findSome? (·.value? name)) := by
  induction chain generalizing p with
  | nil => simp [gatherAll]
  | cons r rest ih =>
    have hfields : Headers.get? r.reply.fields name = r.value? name := by
      unfold Headers.get? Reply.fields Response.value?
      have hname : (fun h : String × String => Headers.sameName h.1 name) ∘
          (fun h : String × List UInt8 => (h.1.toLower, Utf8.decodeLossy h.2)) =
            fun h => Headers.sameName h.1 name := by
        funext h
        exact Headers.sameName_toLower h.1 name
      rw [List.find?_map, Option.map_map, hname]
      rfl
    rw [gatherAll, List.foldl_cons, ← gatherAll, ih, List.findSome?_cons]
    simp only [header?, gather, Headers.get?_offerAll, hfields]
    cases p.headers.get? name <;> cases r.value? name <;> rfl

/-- The status of a page is the last one. -/
theorem status_gatherAll (p : Page) (chain : List Response) :
    ∀ r ∈ chain.getLast?, (p.gatherAll chain).status = r.reply.status := by
  intro r hr
  obtain ⟨rest, rfl⟩ := List.getLast?_eq_some_iff.mp hr
  rw [gatherAll, List.foldl_append]
  rfl

/-- A page is what a chain of responses brings. -/
structure IsGathered (p : Page) (chain : List Response) : Prop where
  body : p.body = "\n".intercalate ((chain.map (·.text)).filter (· ≠ ""))
  header? : ∀ name, p.header? name = chain.findSome? (·.value? name)
  status : ∀ r ∈ chain.getLast?, p.status = r.reply.status

/-- From the blank page on, a page gathers what the responses bring. -/
theorem gathered_gatherAll (chain : List Response) : (blank.gatherAll chain).IsGathered chain where
  body := by simp [body_gatherAll, blank]
  header? name := by
    rw [header?_gatherAll]
    rfl
  status := status_gatherAll blank chain

end Page
end SiteProbe
