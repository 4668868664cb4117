import SiteProbe.Conversation
import SiteProbe.Detector

/-!
# Conversations led with a web

A conversation asks one message at a time and knows nothing of who answers. It can be led with a web of any monad
(`Conversation.lead`), and what a detection asks in a conversation, led with a web, is what the detection asks that web
directly: so it is for the fetching of a page (`lead_fetch`), for its retries (`lead_retryFrom`), and for the detection
as a whole (`lead_detectHttp`).

A web may answer by the number of the message (`Web.numbered`), so that a message that is sent again finds another
answer. A conversation to which these answers are dictated (`Conversation.dictated`) takes no notice of any other web.
-/

namespace SiteProbe

/-- A web that answers messages by their number. -/
def Web.numbered (answers : Nat → Url → Message → Except Failure Reply) : Web (StateM Nat) :=
  fun url message n => (answers n url message, n + 1)

namespace Conversation

variable {m : Type → Type} [Monad m] {α β : Type}

/-- Lead a conversation to its end with a web. -/
def lead (web : Web m) : Conversation α → m α
  | .done a => pure a
  | .ask url message next => do (next (← web url message)).lead web

@[simp]
theorem lead_pure (w : Web m) (a : α) : (pure a : Conversation α).lead w = pure a := rfl

variable [LawfulMonad m] {w : Web m}

/-- What comes behind a conversation goes on with its result. -/
@[simp]
theorem lead_bind (c : Conversation α) (f : α → Conversation β) :
    (c >>= f).lead w = c.lead w >>= fun a => (f a).lead w := by
  induction c with
  | done a => exact (pure_bind a fun a => (f a).lead w).symm
  | ask url message next ih =>
    calc (w url message >>= fun reply => (next reply >>= f).lead w)
        = w url message >>= fun reply => (next reply).lead w >>= fun a => (f a).lead w := by simp only [ih]
      _ = (w url message >>= fun reply => (next reply).lead w) >>= fun a => (f a).lead w := (bind_assoc _ _ _).symm

@[simp]
theorem lead_web (url : Url) (message : Message) : (web url message).lead w = w url message := bind_pure _

/-! ## The steps of a detection -/

theorem lead_follow (message : Message) (p : Page) (hops : Nat) (url : Url) :
    (follow web message p hops url).lead w = follow w message p hops url := by
  induction hops generalizing p url with
  | zero =>
    unfold follow
    split
    · rfl
    · rw [lead_bind, lead_web]
      refine bind_congr fun reply => ?_
      cases reply with
      | error f => rfl
      | ok reply => cases hbody : reply.body <;> simp [hbody]
  | succ hops ih =>
    unfold follow
    split
    · rfl
    · rw [lead_bind, lead_web]
      refine bind_congr fun reply => ?_
      cases reply with
      | error f => rfl
      | ok reply =>
        cases hbody : reply.body with
        | error f => simp [hbody]
        | ok body => cases hnext : reply.next? url <;> simp [hbody, hnext, ih]

theorem lead_fetch (maxRedirects : Nat) (url : String) (r : Request) :
    (fetch web maxRedirects url r).lead w = fetch w maxRedirects url r := by
  unfold fetch
  cases Url.parse url with
  | error e => rfl
  | ok start =>
    cases Message.ofRequest r with
    | error e => rfl
    | ok message => exact lead_follow message .blank maxRedirects start

theorem lead_retryFrom (policy : RetryPolicy) (operation : UInt32 → Conversation (Except Error α)) (left : Nat)
    (attempt : UInt32) :
    (retryFrom policy (fun _ => return ()) operation left attempt).lead w =
      retryFrom policy (fun _ => return ()) (fun attempt => (operation attempt).lead w) left attempt := by
  induction left generalizing attempt with
  | zero =>
    unfold retryFrom
    rw [lead_bind]
    refine bind_congr fun a => ?_
    cases a <;> rfl
  | succ left ih =>
    unfold retryFrom
    rw [lead_bind]
    refine bind_congr fun a => ?_
    cases a with
    | ok a => rfl
    | error e => simp [ih]

/-! ## The detection -/

variable (d : Detector)

theorem lead_fetchGroup (target : String) (g : Group) :
    (d.fetchGroup (d.world web fun _ => return ()) target g).lead w =
      d.fetchGroup (d.world w fun _ => return ()) target g := by
  refine (lead_retryFrom _ _ _ _).trans ?_
  simp only [Detector.world, lead_fetch]
  rfl

theorem lead_probe (target : String) (f : Findings) (gs : List Group) :
    (d.probe (d.world web fun _ => return ()) target f gs).lead w =
      d.probe (d.world w fun _ => return ()) target f gs := by
  induction gs generalizing f with
  | nil => rfl
  | cons g rest ih =>
    unfold Detector.probe
    rw [lead_bind, lead_fetchGroup]
    refine bind_congr fun page => ?_
    cases page with
    | ok page => exact ih _
    | error e => cases hfatal : e.isFatal <;> simp [hfatal, ih]

theorem lead_detectHttp (url : String) :
    (d.detectHttp (d.world web fun _ => return ()) url).lead w = d.detectHttp (d.world w fun _ => return ()) url := by
  unfold Detector.detectHttp Detector.detect
  cases Url.parse url with
  | error e => rfl
  | ok target => cases hhttp : target.isHttp <;> simp [hhttp, lead_probe]

/-! ## Dictated answers -/

/-- The conversation to which answers are dictated, the next with the number `n`. It asks the same and takes no notice of
what is replied. -/
def dictated (answers : Nat → Url → Message → Except Failure Reply) (n : Nat) : Conversation α → Conversation α
  | .done a => .done a
  | .ask url message next => .ask url message fun _ => (next (answers n url message)).dictated answers (n + 1)

/-- Dictated answers lead to the result to which a web leads that gives them. -/
theorem finish_dictated (answer : Url → Message → Except Failure Reply)
    (answers : Nat → Url → Message → Except Failure Reply) (n : Nat) (c : Conversation α) :
    (c.dictated answers n).finish answer = ((c.lead (Web.numbered answers)).run n).1 := by
  induction c generalizing n with
  | done a => rfl
  | ask url message next ih => exact ih (answers n url message) (n + 1)

/-- A web whose answer to a message depends on nothing else leads to the same result, however it numbers messages. -/
theorem finish_eq_lead (answer : Url → Message → Except Failure Reply) (n : Nat) (c : Conversation α) :
    c.finish answer = ((c.lead (Web.numbered fun _ => answer)).run n).1 := by
  induction c generalizing n with
  | done a => rfl
  | ask url message next ih => exact ih (answer url message) (n + 1)

end Conversation
end SiteProbe
