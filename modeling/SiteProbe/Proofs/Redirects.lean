import SiteProbe.Proofs.Attempts
import SiteProbe.Proofs.Chain
import SiteProbe.Proofs.Host

/-!
# Redirects that are followed

What a fetch sends and what comes of it, for every web (`Followed`): it sends one message to one URL after the other,
until something fails or the last response of the walk has come.

- every message goes to the host of the start over the web proper, and there is at most one more of them than there are
  hops (`Followed.onHost`, `Followed.length_le`);
- there is a page only if the exchanges are those of a whole walk (`Followed.walk_of_ok`), and then always
  (`Followed.ok_of_walk`); it is what the walk gathers;
- an exchange that fails is the last one, and its failure is the error (`Followed.failed_of_mem`). There is no other
  error but the one of a URL that cannot be sent to (`Followed.broken_of_error`).
-/

namespace SiteProbe

variable {σ : Type} {message : Message} {hops : Nat} {p : Page} {url : Url} {t : List Exchange}
  {result : Except Error Page}

/-- The exchange that a response is part of. -/
def Response.exchange (message : Message) (r : Response) : Exchange := ⟨r.url, message, .ok r.reply⟩

theorem Response.exchange_injective {r r' : Response} (h : r.exchange message = r'.exchange message) : r = r' := by
  obtain ⟨url, reply, body, whole⟩ := r
  obtain ⟨url', reply', body', whole'⟩ := r'
  cases h
  cases whole.symm.trans whole'
  rfl

/-- An exchange that fails, at once or while the body is read. -/
def Exchange.FailedWith (e : Exchange) (f : Failure) : Prop :=
  e.answer = .error f ∨ ∃ reply, e.answer = .ok reply ∧ reply.body = .error f

/-- The exchange of a response did not fail. -/
theorem Response.not_failedWith (r : Response) (f : Failure) : ¬(r.exchange message).FailedWith f := by
  rintro (hf | ⟨reply, hreply, hf⟩)
  · cases hf
  · cases hreply
    rw [r.whole] at hf
    cases hf

/-- Why exchanges with a message, from a URL on, came to an error: the last one failed, or the next message cannot be
sent, be it the first one or the one to where the last response leads. -/
inductive Broken (message : Message) (url : Url) (t : List Exchange) : Error → Prop
  | failed {e : Exchange} {f : Failure} : t.getLast? = some e → e.FailedWith f → Broken message url t (.ofFailure f)
  | unsendable : t = [] → url.isSendable = false → Broken message url t (.http "URL not allowed")
  | astray {r : Response} {next : Url} : t.getLast? = some (r.exchange message) → r.LeadsTo next →
      next.isSendable = false → Broken message url t (.http "URL not allowed")

/-- An exchange before the others does not change why they came to an error. -/
theorem Broken.cons {r : Response} {next : Url} {error : Error} (h : Broken message next t error)
    (hled : r.LeadsTo next) : Broken message r.url (r.exchange message :: t) error := by
  have hlast {e : Exchange} (he : t.getLast? = some e) : (r.exchange message :: t).getLast? = some e := by
    rw [List.getLast?_cons, he]
    rfl
  cases h with
  | failed he hf => exact .failed (hlast he) hf
  | unsendable ht hs =>
    subst ht
    exact .astray rfl hled hs
  | astray he hled' hs => exact .astray (hlast he) hled' hs

/-- A redirect that the code follows is one that leads on. -/
theorem leadsTo_iff {r : Response} {next : Url} : r.LeadsTo next ↔ r.reply.next? r.url = some next := by
  unfold Reply.next? Reply.isRedirect
  constructor
  · rintro ⟨hstatus, ⟨location, hlocation, hnext⟩, -, hhost⟩
    simp [hstatus, hlocation, hnext, hhost]
  · intro h
    split at h
    · rename_i hstatus
      obtain ⟨hnext, hhost⟩ := Option.filter_eq_some_iff.mp h
      obtain ⟨location, hlocation, hresolve⟩ := Option.bind_eq_some_iff.mp hnext
      refine ⟨by simpa using hstatus, ⟨location, hlocation, hresolve⟩, ?_, hhost⟩
      unfold Url.resolve? at hresolve
      dsimp only at hresolve
      split at hresolve
      · cases hresolve
      · split at hresolve
        · split at hresolve
          · cases hresolve
            assumption
          · cases hresolve
        · cases hresolve
    · cases h

/-! ## What following comes to -/

/-- With some hops left and a page so far, following from a URL on makes exchanges and has a result. -/
inductive Followed (message : Message) : Nat → Page → Url → List Exchange → Except Error Page → Prop
  | unsendable {hops : Nat} {p : Page} {url : Url} :
      url.isSendable = false → Followed message hops p url [] (.error (.http "URL not allowed"))
  | failed {hops : Nat} {p : Page} {url : Url} (f : Failure) :
      url.isSendable = true → Followed message hops p url [⟨url, message, .error f⟩] (.error (.ofFailure f))
  | broken {hops : Nat} {p : Page} {url : Url} (reply : Reply) (f : Failure) :
      url.isSendable = true → reply.body = .error f →
        Followed message hops p url [⟨url, message, .ok reply⟩] (.error (.ofFailure f))
  | last {hops : Nat} {p : Page} (r : Response) :
      r.url.isSendable = true → (hops = 0 ∨ ¬∃ next, r.LeadsTo next) →
        Followed message hops p r.url [r.exchange message] (.ok (p.gather r.reply r.body))
  | next {hops : Nat} {p : Page} (r : Response) {next : Url} {t : List Exchange} {result : Except Error Page} :
      r.url.isSendable = true → r.LeadsTo next →
        Followed message hops (p.gather r.reply r.body) next t result →
          Followed message (hops + 1) p r.url (r.exchange message :: t) result

/-- Following, in whatever web. -/
theorem runs_follow (web : Web (StateM σ)) (message : Message) : ∀ (hops : Nat) (p : Page) (url : Url) (s : σ),
    ∃ t result s', Runs (follow web.noting message p hops url) s t result s' ∧
      Followed message hops p url t result := by
  intro hops
  -- whether a hop is left is asked last, when the answer is there, so no case of `hops` stands at the start
  induction hops using Nat.strongRecOn with
  | _ hops ih =>
    intro p url s
    rw [follow]
    by_cases hs : url.isSendable = true
    · rw [hs, Bool.not_true, if_neg Bool.false_ne_true]
      have hweb := Runs.noting (Exchange.mk url message) (web url message) s
      generalize (web url message).run s = out at hweb
      obtain ⟨answer, s'⟩ := out
      cases answer with
      | error f => exact ⟨[⟨url, message, .error f⟩], _, s', hweb.bind (Runs.pure _ s'), .failed f hs⟩
      | ok reply =>
        cases hbody : reply.body with
        | error f =>
          refine ⟨[⟨url, message, .ok reply⟩], _, s', hweb.bind ?_, .broken reply f hs hbody⟩
          simp only [hbody]
          exact Runs.pure _ s'
        | ok body =>
          let r : Response := ⟨url, reply, body, hbody⟩
          cases hops with
          | zero =>
            refine ⟨[r.exchange message], _, s', hweb.bind ?_, .last r hs (.inl rfl)⟩
            simp only [hbody]
            exact Runs.pure _ s'
          | succ hops =>
            cases hnext : reply.next? url with
            | none =>
              refine ⟨[r.exchange message], _, s', hweb.bind ?_, .last r hs (.inr ?_)⟩
              · simp only [hbody, hnext]
                exact Runs.pure _ s'
              · rintro ⟨next, hled⟩
                rw [leadsTo_iff, hnext] at hled
                cases hled
            | some next =>
              obtain ⟨t, result, s'', hrun, hf⟩ := ih hops (Nat.lt_succ_self hops) (p.gather reply body) next s'
              refine ⟨r.exchange message :: t, result, s'', hweb.bind ?_, .next r hs (leadsTo_iff.mpr hnext) hf⟩
              simp only [hbody, hnext]
              exact hrun
    · exact ⟨[], _, s, by simpa [hs] using Runs.pure _ s, .unsendable (by simpa using hs)⟩

namespace Followed

/-- There is at most one exchange more than there are hops. -/
theorem length_le (h : Followed message hops p url t result) : t.length ≤ hops + 1 := by
  induction h with
  | unsendable | failed | broken | last => simp
  | next _ _ _ _ ih => simpa using ih

/-- The first exchange is with the URL that following starts from. -/
theorem url_of_head (h : Followed message hops p url t result) : ∀ e ∈ t.head?, e.url = url := by
  cases h <;> simp [Response.exchange]

theorem message_eq (h : Followed message hops p url t result) : ∀ e ∈ t, e.message = message := by
  induction h with
  | unsendable | failed | broken | last => simp [Response.exchange]
  | next r _ _ _ ih =>
    intro e he
    rcases List.mem_cons.mp he with rfl | he
    · rfl
    · exact ih e he

/-- Every exchange is with the host of the start, over the web proper. -/
theorem onHost (h : Followed message hops p url t result) {host : String} (hhost : url.hostText? = some host) :
    ∀ e ∈ t, e.url.isHttp ∧ ∃ other, e.url.hostText? = some other ∧ other.toLower = host.toLower := by
  induction h generalizing host with
  | unsendable => simp
  | failed _ hs | broken _ _ hs _ | last _ hs _ =>
    intro e he
    obtain rfl := List.mem_singleton.mp he
    exact ⟨Url.isHttp_of_isSendable hs, host, hhost, rfl⟩
  | next r hs hled _ ih =>
    intro e he
    rcases List.mem_cons.mp he with rfl | he
    · exact ⟨Url.isHttp_of_isSendable hs, host, hhost, rfl⟩
    · obtain ⟨a, b, ha, hb, hab⟩ := Url.sameHost_iff.mp hled.sameHost
      obtain rfl := Option.some.inj (ha.symm.trans hhost)
      obtain ⟨hhttp, other, hother, hlower⟩ := ih hb e he
      exact ⟨hhttp, other, hother, hlower.trans hab.symm⟩

/-- An exchange that fails is the last one, and there is no page. -/
theorem failed_of_mem (h : Followed message hops p url t result) :
    ∀ e ∈ t, ∀ f, e.FailedWith f → t.getLast? = some e ∧ result = .error (.ofFailure f) := by
  induction h with
  | unsendable => simp
  | failed f =>
    intro e he f' hfail
    obtain rfl := List.mem_singleton.mp he
    rcases hfail with hf | ⟨reply, hreply, -⟩
    · cases hf
      exact ⟨rfl, rfl⟩
    · cases hreply
  | broken reply f _ hbody =>
    intro e he f' hfail
    obtain rfl := List.mem_singleton.mp he
    rcases hfail with hf | ⟨reply', hreply, hf⟩
    · cases hf
    · cases hreply
      obtain rfl := Except.error.inj (hbody.symm.trans hf)
      exact ⟨rfl, rfl⟩
  | last r =>
    intro e he f hfail
    obtain rfl := List.mem_singleton.mp he
    exact absurd hfail (r.not_failedWith f)
  | next r _ _ _ ih =>
    intro e he f hfail
    rcases List.mem_cons.mp he with rfl | he
    · exact absurd hfail (r.not_failedWith f)
    · obtain ⟨hlast, herror⟩ := ih e he f hfail
      exact ⟨by rw [List.getLast?_cons, hlast]; rfl, herror⟩

/-- An error comes from the last exchange, or from a URL that cannot be sent to. -/
theorem broken_of_error (h : Followed message hops p url t result) {error : Error} (herror : result = .error error) :
    Broken message url t error := by
  induction h with
  | unsendable hs =>
    cases herror
    exact .unsendable rfl hs
  | failed f =>
    cases herror
    exact .failed rfl (.inl rfl)
  | broken reply f _ hbody =>
    cases herror
    exact .failed rfl (.inr ⟨reply, rfl, hbody⟩)
  | last r => cases herror
  | next r _ hled _ ih => exact (ih herror).cons hled

/-- A page comes from a whole walk. -/
theorem walk_of_ok (h : Followed message hops p url t result) {q : Page} (hq : result = .ok q) :
    ∃ chain, Walk hops url chain ∧ t = chain.map (·.exchange message) ∧ q = p.gatherAll chain := by
  induction h with
  | unsendable | failed | broken => cases hq
  | last r _ hstop =>
    cases hq
    exact ⟨[r], .singleton hstop, rfl, rfl⟩
  | next r _ hled _ ih =>
    obtain ⟨chain, hwalk, rfl, rfl⟩ := ih hq
    exact ⟨r :: chain, .cons hled hwalk, rfl, rfl⟩

/-- A whole walk gives a page. -/
theorem ok_of_walk (h : Followed message hops p url t result) {chain : List Response} (hwalk : Walk hops url chain)
    (ht : t = chain.map (·.exchange message)) : result = .ok (p.gatherAll chain) := by
  induction h generalizing chain with
  | unsendable => exact absurd (List.map_eq_nil_iff.mp ht.symm) hwalk.ne_nil
  | failed f =>
    obtain ⟨r', rest, rfl⟩ := List.exists_cons_of_ne_nil hwalk.ne_nil
    cases (List.cons.inj ht).1
  | broken reply f _ hbroken =>
    obtain ⟨r', rest, rfl⟩ := List.exists_cons_of_ne_nil hwalk.ne_nil
    cases (List.cons.inj ht).1
    rw [r'.whole] at hbroken
    cases hbroken
  | last r =>
    obtain ⟨r', rest, rfl⟩ := List.exists_cons_of_ne_nil hwalk.ne_nil
    obtain ⟨hr, hrest⟩ := List.cons.inj ht
    obtain rfl := Response.exchange_injective hr
    obtain rfl := List.map_eq_nil_iff.mp hrest.symm
    rfl
  | next r _ hled _ ih =>
    obtain ⟨r', rest, rfl⟩ := List.exists_cons_of_ne_nil hwalk.ne_nil
    obtain ⟨hr, hrest⟩ := List.cons.inj ht
    obtain rfl := Response.exchange_injective hr
    obtain ⟨-, ⟨-, hstop⟩ | ⟨n, next', hn, hled', hwalk'⟩⟩ := hwalk.cons_cases
    · rcases hstop with h0 | hnone
      · cases h0
      · exact absurd ⟨_, hled⟩ hnone
    · obtain rfl := Nat.succ.inj hn
      obtain rfl := Option.some.inj ((leadsTo_iff.mp hled).symm.trans (leadsTo_iff.mp hled'))
      exact ih hwalk' hrest

end Followed
end SiteProbe
