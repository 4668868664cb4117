import SiteProbe.Web.Fetch

/-!
# Conversations

A conversation with a web is a result, or a message and how it goes on after the answer. So conversations can be led at
the same time, one answer here and one there (`Conversation.proceed`), and led to their end (`Conversation.finish`).
-/

namespace SiteProbe

/-- A conversation with a web. -/
inductive Conversation (α : Type) where
  | done (result : α)
  | ask (url : Url) (message : Message) (next : Except Failure Reply → Conversation α)

namespace Conversation

variable {α β : Type}

/-- Go on with another conversation after the end of one. -/
def andThen (c : Conversation α) (f : α → Conversation β) : Conversation β :=
  match c with
  | .done a => f a
  | .ask url message next => .ask url message fun reply => (next reply).andThen f

instance : Monad Conversation where
  pure := .done
  bind := andThen

/-- The web as a partner of conversations. -/
def web : Web Conversation := fun url message => .ask url message .done

/-- Let a conversation go on by one answer. -/
def proceed (answer : Url → Message → Except Failure Reply) : Conversation α → Conversation α
  | .done a => .done a
  | .ask url message next => next (answer url message)

/-- Lead a conversation to its end. -/
def finish (answer : Url → Message → Except Failure Reply) : Conversation α → α
  | .done a => a
  | .ask url message next => (next (answer url message)).finish answer

end Conversation
end SiteProbe
