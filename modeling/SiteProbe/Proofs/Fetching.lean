import SiteProbe.Proofs.Redirects

/-!
# What fetching does

A fetch of a page, in any web, sends the one message of its request along a walk of responses.

- it sends at most one message more than it may follow redirects, all of them to the host of its URL over the web proper
  (`fetch_stays_on_host`);
- it gives the page that a whole walk gathers, or the error of what went wrong, and a fetch that is retried gives the
  page of the last attempt, which starts anew like all of them (`fetch_gathers_walk`).
-/

namespace SiteProbe

variable {σ : Type} {maxRedirects : Nat} {url : String} {r : Request} {t : List Exchange} {result : Except Error Page}

/-! ## The message of a request -/

namespace Message

/-- A field that is sent has its name in small letters and its value as it was. -/
theorem field_ok {h h' : String × String} (hf : field h = .ok h') : h' = (h.1.toLower, h.2) := by
  unfold field at hf
  split at hf
  · cases hf
  · split at hf
    · cases hf
    · cases hf
      rfl

theorem mapM_field_ok {hs hs' : List (String × String)} (h : hs.mapM field = .ok hs') :
    hs' = hs.map fun h => (h.1.toLower, h.2) := by
  induction hs generalizing hs' with
  | nil =>
    cases h
    rfl
  | cons e rest ih =>
    rw [List.mapM_cons] at h
    cases he : field e with
    | error error => simp [he, bind, Except.bind] at h
    | ok e' =>
      cases hrest : rest.mapM field with
      | error error => simp [he, hrest, bind, Except.bind] at h
      | ok rest' =>
        simp only [he, hrest, bind, Except.bind, pure, Except.pure] at h
        cases h
        rw [List.map_cons, field_ok he, ih hrest]

/-- The message of a request, if there is one, has its method, its fields and its body. -/
theorem ofRequest_ok {m : Message} (h : ofRequest r = .ok m) :
    m = ⟨r.methodName, r.headers.toList.map (fun h => (h.1.toLower, h.2)) ++ bodyType r, bodyOf r⟩ := by
  unfold ofRequest at h
  simp only [bind, Except.bind, pure, Except.pure, throw, throwThe, MonadExceptOf.throw] at h
  split at h
  · cases h
  · split at h
    · cases h
    · rename_i hheaders
      cases h
      rw [mapM_field_ok hheaders]

end Message

/-! ## Fetches -/

/-- Why a fetch sends nothing: its URL or its request is none. -/
def Unstarted (url : String) (r : Request) (error : Error) : Prop :=
  (∃ e, Url.parse url = .error e ∧ error = .url e) ∨ Message.ofRequest r = .error error

/-- What a fetch sends and what comes of it: the message of its request, and a walk from its URL on. An exchange that
fails ends it, and its failure is the error; other errors come from what cannot be sent. -/
structure Fetched (maxRedirects : Nat) (url : String) (r : Request) (t : List Exchange) (result : Except Error Page) :
    Prop where
  starts : ∀ e ∈ t.head?, Url.parse url = .ok e.url
  ok : ∀ p, result = .ok p → ∃ start message chain, Url.parse url = .ok start ∧ Message.ofRequest r = .ok message ∧
    Walk maxRedirects start chain ∧ t = chain.map (·.exchange message) ∧ p.IsGathered chain
  whole : ∀ start message chain, Url.parse url = .ok start → Walk maxRedirects start chain →
    t = chain.map (·.exchange message) → ∃ p, result = .ok p
  failed : ∀ e ∈ t, ∀ f, e.FailedWith f → t.getLast? = some e ∧ result = .error (.ofFailure f)
  broken : ∀ error, result = .error error → t = [] ∧ Unstarted url r error ∨
    ∃ start message, Url.parse url = .ok start ∧ Message.ofRequest r = .ok message ∧ Broken message start t error

namespace Fetched

/-- A fetch that sends nothing has no page. -/
theorem of_unstarted {error : Error} (h : Unstarted url r error) : Fetched maxRedirects url r [] (.error error) where
  starts e he := by cases he
  ok p hp := by cases hp
  whole start message chain _ hwalk ht := absurd (List.map_eq_nil_iff.mp ht.symm) hwalk.ne_nil
  failed e he := by cases he
  broken error' herror := by
    cases herror
    exact .inl ⟨rfl, h⟩

theorem of_followed {start : Url} {message : Message} (hstart : Url.parse url = .ok start)
    (hmessage : Message.ofRequest r = .ok message) (h : Followed message maxRedirects .blank start t result) :
    Fetched maxRedirects url r t result where
  starts e he := by rw [hstart, h.url_of_head e he]
  ok p hp := by
    obtain ⟨chain, hwalk, ht, rfl⟩ := h.walk_of_ok hp
    exact ⟨start, message, chain, hstart, hmessage, hwalk, ht, Page.gathered_gatherAll chain⟩
  whole start' message' chain hstart' hwalk ht := by
    obtain rfl := Except.ok.inj (hstart.symm.trans hstart')
    -- the exchanges are with one message, which is the one of the request
    have hmessage' : message' = message := by
      obtain ⟨first, hfirst, -⟩ := hwalk.starts
      refine h.message_eq (first.exchange message') ?_
      rw [ht]
      exact List.mem_map_of_mem (List.mem_of_mem_head? hfirst)
    exact ⟨_, h.ok_of_walk hwalk (hmessage' ▸ ht)⟩
  failed := h.failed_of_mem
  broken _ herror := .inr ⟨start, message, hstart, hmessage, h.broken_of_error herror⟩

end Fetched

/-- A fetch sends nothing, or it follows from its URL on with the message of its request. -/
theorem runs_fetch (web : Web (StateM σ)) (maxRedirects : Nat) (url : String) (r : Request) (s : σ) :
    ∃ t result s', Runs (fetch web.noting maxRedirects url r) s t result s' ∧
      ((t = [] ∧ ∃ error, Unstarted url r error ∧ result = .error error) ∨ ∃ start message, Url.parse url = .ok start ∧
        Message.ofRequest r = .ok message ∧ Followed message maxRedirects .blank start t result) := by
  unfold fetch
  cases hstart : Url.parse url with
  | error e => exact ⟨[], .error (.url e), s, Runs.pure _ s, .inl ⟨rfl, _, .inl ⟨e, hstart, rfl⟩, rfl⟩⟩
  | ok start =>
    cases hmessage : Message.ofRequest r with
    | error e => exact ⟨[], .error e, s, Runs.pure _ s, .inl ⟨rfl, e, .inr hmessage, rfl⟩⟩
    | ok message =>
      obtain ⟨t, result, s', hrun, hf⟩ := runs_follow web message maxRedirects .blank start s
      exact ⟨t, result, s', hrun, .inr ⟨start, message, rfl, rfl, hf⟩⟩

theorem runs_fetch_fetched (web : Web (StateM σ)) (maxRedirects : Nat) (url : String) (r : Request) (s : σ) :
    ∃ t result s', Runs (fetch web.noting maxRedirects url r) s t result s' ∧ Fetched maxRedirects url r t result := by
  obtain ⟨t, result, s', hrun, ⟨rfl, error, hunstarted, rfl⟩ | ⟨start, message, hstart, hmessage, hf⟩⟩ :=
    runs_fetch web maxRedirects url r s
  · exact ⟨[], .error error, s', hrun, .of_unstarted hunstarted⟩
  · exact ⟨t, result, s', hrun, .of_followed hstart hmessage hf⟩

/-! ## What holds in every web -/

/-- A fetch ends after at most one message more than it may follow redirects, whatever the servers answer. Every message
has the method, the fields and the body of the request, and goes to the host of the URL over the web proper. -/
theorem fetch_stays_on_host (web : Web (StateM σ)) (maxRedirects : Nat) {url : String} {start : Url} (r : Request)
    (s : σ) (hstart : Url.parse url = .ok start) (hhttp : start.isHttp) :
    ∃ host result t s', start.hostText? = some host ∧
      ((fetch web.noting maxRedirects url r).run []).run s = ((result, t), s') ∧ t.length ≤ maxRedirects + 1 ∧
        ∀ e ∈ t, e.message.method = r.methodName ∧
          e.message.headers = r.headers.toList.map (fun h => (h.1.toLower, h.2)) ++ Message.bodyType r ∧
          e.message.body = Message.bodyOf r ∧
          e.url.isHttp ∧ ∃ other, e.url.hostText? = some other ∧ other.toLower = host.toLower := by
  obtain ⟨host, hhost⟩ := Url.hostText?_of_parse hstart hhttp
  obtain ⟨t, result, s', hrun, ⟨rfl, -⟩ | ⟨start', message, hstart', hmessage, hf⟩⟩ :=
    runs_fetch web maxRedirects url r s
  · exact ⟨host, result, [], s', hhost, hrun.run_nil, Nat.zero_le _, fun e he => by cases he⟩
  · obtain rfl := Except.ok.inj (hstart.symm.trans hstart')
    refine ⟨host, result, t, s', hhost, hrun.run_nil, hf.length_le, fun e he => ?_⟩
    rw [hf.message_eq e he, Message.ofRequest_ok hmessage]
    exact ⟨rfl, rfl, rfl, hf.onHost hhost e he⟩

/-- A web whose pages all send their reader to the root of their host. -/
def Web.turning : Web (StateM Unit) := fun _ _ => return .ok ⟨302, [("Location", Utf8.encode "/")], .ok []⟩

/-- Where redirects never end, as many as may be are followed. -/
theorem fetch_stays_on_host_turning :
    let t := (((fetch Web.turning.noting 3 "http://a.test/" .plain).run []).run ()).1.2
    t.length = 4 ∧ ∀ e ∈ t, e.message.method = "GET" ∧
      ∃ other, e.url.hostText? = some other ∧ other.toLower = "a.test" := by
  obtain ⟨host, result, t, s', hhost, hrun, -, hall⟩ :=
    fetch_stays_on_host Web.turning 3 Request.plain () Url.parse_sampleRoot (by decide)
  obtain rfl : "a.test" = host := Option.some.inj hhost
  refine ⟨by decide +kernel, fun e he => ?_⟩
  rw [hrun] at he
  obtain ⟨hmethod, -, -, -, other, hother, hlower⟩ := hall e he
  exact ⟨hmethod, other, hother, hlower.trans (by decide +kernel)⟩

/-- A fetch gives the page that a whole walk from its URL gathers, and no page if anything fails. Retried, it gives the
page of its last attempt alone, and all attempts are fetches from the URL on. -/
theorem fetch_gathers_walk (web : Web (StateM σ)) (maxRedirects : Nat) (url : String) (r : Request) (s : σ) :
    (∃ t result s', ((fetch web.noting maxRedirects url r).run []).run s = ((result, t), s') ∧
      Fetched maxRedirects url r t result) ∧
    ∀ (policy : RetryPolicy) (pause : Duration → StateM σ Unit), ∃ attempts last s',
      ((retry policy (fun d => silently (pause d)) fun _ => fetch web.noting maxRedirects url r).run []).run s =
          ((finalResult policy.maxRetries last.result, attempts.flatMap (·.notes)), s') ∧
        Attempts policy.maxRetries.toNat attempts ∧ attempts.getLast? = some last ∧
        ∀ a ∈ attempts, Fetched maxRedirects url r a.notes a.result := by
  constructor
  · obtain ⟨t, result, s', hrun, hf⟩ := runs_fetch_fetched web maxRedirects url r s
    exact ⟨t, result, s', hrun.run_nil, hf⟩
  · intro policy pause
    obtain ⟨as, last, s', hrun, has, hlast, hall⟩ := runs_retry policy pause
      (P := fun a => Fetched maxRedirects url r a.notes a.result)
      (fun _ s => runs_fetch_fetched web maxRedirects url r s) s
    exact ⟨as, last, s', hrun.run_nil, has, hlast, hall⟩

/-- A web that sends its reader to another page, which does not answer in time when it is asked for first. -/
def Web.faltering : Web (StateM Nat) := fun _ _ => do
  let n ← get
  set (n + 1)
  return match n with
    | 0 => .ok ⟨302, [("Location", Utf8.encode "/home")], .ok (Utf8.encode "lost")⟩
    | 1 => .error ⟨true, "operation timed out"⟩
    | 2 => .ok ⟨302, [("Location", Utf8.encode "/home")], .ok (Utf8.encode "moved")⟩
    | _ => .ok ⟨200, [("Server", Utf8.encode "nginx")], .ok (Utf8.encode "home")⟩

/-- The first attempt fails behind a redirect, the second one does not, and nothing of the first one is in the page. -/
theorem fetch_gathers_walk_retried :
    let run := ((retry .standard (fun _ => silently (return)) fun _ =>
      fetch Web.faltering.noting 3 "http://a.test/" .plain).run []).run 0
    run.1.2.map (·.url.text) = ["http://a.test/", "http://a.test/home", "http://a.test/", "http://a.test/home"] ∧
      ∃ p chain, run.1.1 = .ok p ∧ Walk 3 Url.sampleRoot chain ∧ p.IsGathered chain ∧
        p.body = "moved\nhome" ∧ p.status = 200 ∧ p.header? "server" = some "nginx" := by
  intro run
  obtain ⟨-, hretry⟩ := fetch_gathers_walk Web.faltering 3 "http://a.test/" .plain 0
  obtain ⟨attempts, last, s', hrun, -, hlast, hall⟩ := hretry .standard fun _ => return
  have hread : run.1.1.toOption.map (fun p => (p.body, p.status, p.header? "server")) =
    some ("moved\nhome", 200, some "nginx") := by decide +kernel
  obtain ⟨p, hp, htold⟩ := Option.map_eq_some_iff.mp hread
  obtain ⟨hbody, htold⟩ := Prod.mk.inj htold
  obtain ⟨hstatus, hserver⟩ := Prod.mk.inj htold
  have hpage := eq_ok_of_toOption hp
  have hfinal : run.1.1 = finalResult 1 last.result := congrArg (·.1.1) hrun
  have hok : last.result = .ok p := finalResult_eq_ok_iff.mp (hfinal.symm.trans hpage)
  obtain ⟨start, message, chain, hstart, -, hwalk, -, hgathered⟩ :=
    (hall last (List.mem_of_getLast? hlast)).ok p hok
  obtain rfl := Except.ok.inj (Url.parse_sampleRoot.symm.trans hstart)
  exact ⟨by decide +kernel, p, chain, hpage, hwalk, hgathered, hbody, hstatus, hserver⟩

end SiteProbe
