import SiteProbe.Detector

/-!
# Runs with a log

What an action of the world does is seen in a log: `noting` carries out an action and notes what came of it, `silently`
notes nothing. `Runs x s t a s'` says that `x`, run from the state `s`, gives `a`, leaves the state `s'` and notes `t`
behind whatever is in the log; runs of a sequence are runs one after the other (`Runs.bind`). The state is of any type,
so a fetcher, a web or an augmenter may behave in any way and differ from call to call.

- a world notes the calls of its fetcher (`World.noting`);
- a web notes the messages that it answers (`Web.noting`).
-/

namespace SiteProbe

variable {ε σ α β : Type}

/-- Actions on a state that can write a log. -/
abbrev Logged (ε σ : Type) := StateT (List ε) (StateM σ)

/-- Carry out an action and note what came of it. -/
def noting (note : α → ε) (x : StateM σ α) : Logged ε σ α := fun log => do
  let a ← x
  return (a, log ++ [note a])

/-- Carry out an action and note nothing. -/
def silently (x : StateM σ α) : Logged ε σ α := StateT.lift x

/-- An action that is run from the state `s` gives `a`, leaves the state `s'` and notes `t`. -/
def Runs (x : Logged ε σ α) (s : σ) (t : List ε) (a : α) (s' : σ) : Prop :=
  ∀ log, (x.run log).run s = ((a, log ++ t), s')

namespace Runs

variable {x : Logged ε σ α} {f : α → Logged ε σ β} {s s' s'' : σ} {t t' : List ε} {a : α} {b : β}

theorem pure (a : α) (s : σ) : Runs (ε := ε) (Pure.pure a) s [] a s := by
  intro log
  rw [List.append_nil]
  rfl

theorem noting (note : α → ε) (x : StateM σ α) (s : σ) :
    Runs (SiteProbe.noting note x) s [note (x.run s).1] (x.run s).1 (x.run s).2 := fun _ => rfl

theorem silently (x : StateM σ α) (s : σ) :
    Runs (ε := ε) (SiteProbe.silently x) s [] (x.run s).1 (x.run s).2 := by
  intro log
  rw [List.append_nil]
  rfl

/-- A sequence notes what its parts note. -/
theorem bind (hx : Runs x s t a s') (hf : Runs (f a) s' t' b s'') : Runs (x >>= f) s (t ++ t') b s'' := by
  intro log
  rw [StateT.run_bind, StateT.run_bind, hx log]
  show ((f a).run (log ++ t)).run s' = _
  rw [hf (log ++ t), List.append_assoc]

/-- What comes behind may note nothing. -/
theorem bind_nil (hx : Runs x s t a s') (hf : Runs (f a) s' [] b s'') : Runs (x >>= f) s t b s'' := by
  rw [← List.append_nil t]
  exact hx.bind hf

/-- An action with a result that is worked on. -/
theorem map (g : α → β) (hx : Runs x s t a s') : Runs (g <$> x) s t (g a) s' := by
  rw [← bind_pure_comp]
  exact hx.bind_nil (Runs.pure (g a) s')

/-- A run from the empty log. -/
theorem run_nil (hx : Runs x s t a s') : (x.run []).run s = ((a, t), s') := by
  rw [hx [], List.nil_append]

end Runs

/-! ## Worlds and webs -/

/-- A call of a fetcher and its answer. -/
structure Call where
  url : String
  request : Request
  answer : Except Error Page

/-- A world that notes the calls of its fetcher. -/
def World.noting (w : World (StateM σ)) : World (Logged Call σ) where
  fetch url request := SiteProbe.noting (Call.mk url request) (w.fetch url request)
  pause d := silently (w.pause d)

/-- An augmenter that notes nothing. -/
def Augmenter.silently (augmenter : Augmenter (StateM σ)) : Augmenter (Logged ε σ) := fun url store found =>
  SiteProbe.silently (augmenter url store found)

/-- A message that was sent to a URL, and what came back. -/
structure Exchange where
  url : Url
  message : Message
  answer : Except Failure Reply

/-- A web that notes the messages that it answers. -/
def Web.noting (web : Web (StateM σ)) : Web (Logged Exchange σ) := fun url message =>
  SiteProbe.noting (Exchange.mk url message) (web url message)

end SiteProbe
