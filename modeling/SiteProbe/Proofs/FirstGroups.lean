import SiteProbe.Regex

/-!
# Patterns without a first group

An expression without a first group becomes a program that never opens one (`Node.openGroup_notMem_program`), and no
thread of such a program notes where the group starts (`unopened_follow`, `unopened_advance`, `unopened_searchFrom`). So
the matches of a pattern without groups have no group (`group_eq_none_of_compile?`).
-/

namespace SiteProbe.Regex

/-! ## Programs -/

namespace Node

mutual

/-- Whether the first group is in an expression. -/
def hasFirstGroup : Node → Bool
  | .empty => false
  | .chars _ => false
  | .look _ => false
  | .times _ _ _ n => n.hasFirstGroup
  | .group i n => i == 1 || n.hasFirstGroup
  | .sequence ns => anyHasFirstGroup ns
  | .choice ns => anyHasFirstGroup ns

/-- Whether the first group is in one of several expressions. -/
def anyHasFirstGroup : List Node → Bool
  | [] => false
  | n :: rest => n.hasFirstGroup || anyHasFirstGroup rest

end

/-- What holds of all that is put together from expressions for which it holds holds of every expression. -/
@[elab_as_elim]
theorem inductionOn {motive : Node → Prop} (n : Node) (empty : motive .empty) (chars : ∀ s, motive (.chars s))
    (look : ∀ l, motive (.look l)) (times : ∀ min max greedy n, motive n → motive (.times min max greedy n))
    (group : ∀ i n, motive n → motive (.group i n))
    (sequence : ∀ ns, (∀ n ∈ ns, motive n) → motive (.sequence ns))
    (choice : ∀ ns, (∀ n ∈ ns, motive n) → motive (.choice ns)) : motive n :=
  match n with
  | .empty => empty
  | .chars s => chars s
  | .look l => look l
  | .times min max greedy n => times min max greedy n (n.inductionOn empty chars look times group sequence choice)
  | .group i n => group i n (n.inductionOn empty chars look times group sequence choice)
  | .sequence ns => sequence ns fun n hn =>
    have : sizeOf n < sizeOf ns := List.sizeOf_lt_of_mem hn
    n.inductionOn empty chars look times group sequence choice
  | .choice ns => choice ns fun n hn =>
    have : sizeOf n < sizeOf ns := List.sizeOf_lt_of_mem hn
    n.inductionOn empty chars look times group sequence choice

theorem anyHasFirstGroup_eq_false {ns : List Node} :
    anyHasFirstGroup ns = false ↔ ∀ n ∈ ns, n.hasFirstGroup = false := by
  induction ns with
  | nil => simp [anyHasFirstGroup]
  | cons n rest ih => rw [anyHasFirstGroup, Bool.or_eq_false_iff, ih, List.forall_mem_cons]

/-- What a step keeps is kept by steps in a row. -/
theorem iterate_induction {α : Type} {P : α → Prop} {step : α → α} (hstep : ∀ a, P a → P (step a)) (n : Nat)
    {a : α} (h : P a) : P (iterate step n a) := by
  induction n generalizing a with
  | zero => exact h
  | succ n ih => exact ih (hstep a h)

theorem openGroup_notMem_push {code : Array Instruction} {i : Instruction} (hcode : .openGroup ∉ code)
    (hi : i ≠ .openGroup) : .openGroup ∉ code.push i := by
  rw [Array.mem_push, not_or]
  exact ⟨hcode, hi.symm⟩

theorem openGroup_notMem_emitSequence {ns : List Node}
    (h : ∀ n ∈ ns, ∀ code : Array Instruction, .openGroup ∉ code → .openGroup ∉ n.emit code)
    {code : Array Instruction} (hcode : .openGroup ∉ code) : .openGroup ∉ emitSequence code ns := by
  induction ns generalizing code with
  | nil => exact hcode
  | cons n rest ih =>
    rw [List.forall_mem_cons] at h
    exact ih h.2 (h.1 code hcode)

theorem openGroup_notMem_emitChoice {ns : List Node}
    (h : ∀ n ∈ ns, ∀ code : Array Instruction, .openGroup ∉ code → .openGroup ∉ n.emit code) (exit : Nat)
    {code : Array Instruction} (hcode : .openGroup ∉ code) : .openGroup ∉ emitChoice exit code ns := by
  induction ns generalizing code with
  | nil => exact hcode
  | cons n rest ih =>
    rw [List.forall_mem_cons] at h
    exact ih h.2 (openGroup_notMem_push (h.1 code hcode) nofun)

/-- Behind instructions that open no group, an expression without the first group opens none, either. -/
theorem openGroup_notMem_emit {n : Node} (hn : n.hasFirstGroup = false) {code : Array Instruction}
    (hcode : .openGroup ∉ code) : .openGroup ∉ n.emit code := by
  induction n using inductionOn generalizing code with
  | empty => exact hcode
  | chars s => exact openGroup_notMem_push hcode nofun
  | look l => exact openGroup_notMem_push hcode nofun
  | times min max greedy n ih =>
    have hways {code : Array Instruction} (hcode : .openGroup ∉ code) (inside outside : Nat) :
        .openGroup ∉ code.push (ways greedy inside outside) := openGroup_notMem_push hcode nofun
    have hrounds (rounds : Nat) : Instruction.openGroup ∉ iterate (fun code => n.emit code) rounds code :=
      iterate_induction (P := (Instruction.openGroup ∉ ·)) (fun _ => ih hn) rounds hcode
    cases max with
    | some max =>
      have hstep (exit : Nat) (code : Array Instruction) (hcode : Instruction.openGroup ∉ code) :
          .openGroup ∉ n.emit (code.push (ways greedy (code.size + 1) exit)) := ih hn (hways hcode _ _)
      exact iterate_induction (P := (Instruction.openGroup ∉ ·)) (hstep _) _ (hrounds min)
    | none =>
      rw [emit]
      split
      · split
        · exact hways (ih hn (hways hcode _ _)) _ _
        · exact openGroup_notMem_push (ih hn (hways hcode _ _)) nofun
      · exact hways (ih hn (hrounds (min - 1))) _ _
  | group i n ih =>
    obtain ⟨hi, hn⟩ := Bool.or_eq_false_iff.mp hn
    rw [emit, if_neg (by simpa using hi)]
    exact ih hn hcode
  | sequence ns ih =>
    have hns := anyHasFirstGroup_eq_false.mp hn
    exact openGroup_notMem_emitSequence (fun n hn code => ih n hn (hns n hn)) hcode
  | choice ns ih =>
    have hns := anyHasFirstGroup_eq_false.mp hn
    exact openGroup_notMem_emitChoice (fun n hn code => ih n hn (hns n hn)) _ (openGroup_notMem_push hcode nofun)

theorem openGroup_notMem_program {n : Node} (hn : n.hasFirstGroup = false) : .openGroup ∉ n.program :=
  openGroup_notMem_push (openGroup_notMem_emit hn (Array.not_mem_empty _)) nofun

end Node

/-! ## Searches -/

/-- A thread has not noted where the first group starts. -/
def Thread.Unopened (t : Thread) : Prop := t.span.start = none

/-- None of the threads at a place has noted where the first group starts. -/
def Front.Unopened (front : Front) : Prop := ∀ t ∈ front.threads, t.Unopened

/-- A match, if there is one, has not noted where the first group starts. -/
def Unopened (best : Option Span) : Prop := ∀ span, best = some span → span.start = none

variable {code : Array Instruction} {front : Front} {best : Option Span}

theorem Front.Unopened.push (h : front.Unopened) {t : Thread} (ht : t.Unopened) (marks : Array Nat) :
    Front.Unopened ⟨marks, front.threads.push t⟩ := by
  intro t' ht'
  rcases Array.mem_push.mp ht' with ht' | rfl
  · exact h t' ht'
  · exact ht

theorem Front.unopened_empty (marks : Array Nat) : Front.Unopened ⟨marks, #[]⟩ :=
  fun t ht => absurd ht (Array.not_mem_empty t)

theorem mem_of_getD_eq {place : Nat} {i : Instruction} (h : code.getD place .done = i) (hi : i ≠ .done) :
    i ∈ code := by
  rw [Array.getD_eq_getD_getElem?] at h
  cases hat : code[place]? with
  | none =>
    rw [hat] at h
    exact absurd h.symm hi
  | some j =>
    rw [hat, Option.getD_some] at h
    exact h ▸ Array.mem_of_getElem? hat

theorem Front.Unopened.withMarks (h : front.Unopened) (marks : Array Nat) :
    Front.Unopened ⟨marks, front.threads⟩ := h

/-- Threads that go on note nothing if there is no group to open. -/
theorem unopened_follow (hcode : .openGroup ∉ code) (spot : Spot) (fuel : Nat) (hfront : front.Unopened)
    {waiting : List Thread} (hwaiting : ∀ t ∈ waiting, t.Unopened) :
    (front.follow code spot fuel waiting).Unopened := by
  induction fuel generalizing front waiting with
  | zero => cases waiting <;> exact hfront
  | succ fuel ih =>
    cases waiting with
    | nil => exact hfront
    | cons t waiting =>
      obtain ⟨ht, hwaiting⟩ := List.forall_mem_cons.mp hwaiting
      rw [Front.follow]
      split
      · exact ih hfront hwaiting
      · dsimp only
        split
        · exact ih (hfront.push ht _) hwaiting
        · exact ih (hfront.push ht _) hwaiting
        · apply ih (hfront.withMarks _)
          split
          · exact List.forall_mem_cons.mpr ⟨ht, hwaiting⟩
          · exact hwaiting
        · rename_i hopen
          exact absurd (mem_of_getD_eq hopen nofun) hcode
        · exact ih (hfront.withMarks _) (List.forall_mem_cons.mpr ⟨ht, hwaiting⟩)
        · apply ih (hfront.withMarks _)
          rw [List.forall_mem_append]
          refine ⟨?_, hwaiting⟩
          intro t' ht'
          obtain ⟨place, -, rfl⟩ := List.mem_map.mp ht'
          exact ht

theorem unopened_advance (hcode : .openGroup ∉ code) (limit : Nat) (spot : Spot) (c : Char) (hbest : Unopened best)
    (hfront : front.Unopened) {ts : List Thread} (hts : ∀ t ∈ ts, t.Unopened) :
    Unopened (advance code limit spot c best front ts).1 ∧ (advance code limit spot c best front ts).2.Unopened := by
  induction ts generalizing front with
  | nil => exact ⟨hbest, hfront⟩
  | cons t rest ih =>
    obtain ⟨ht, hrest⟩ := List.forall_mem_cons.mp hts
    rw [advance]
    split
    · split
      · apply ih _ hrest
        apply unopened_follow hcode spot limit hfront
        rw [List.forall_mem_singleton]
        exact ht
      · exact ih hfront hrest
    · refine ⟨?_, hfront⟩
      rintro span ⟨⟩
      exact ht
    · exact ih hfront hrest

theorem unopened_firstDone (hfront : front.Unopened) : Unopened (firstDone code front.threads) := by
  intro span hspan
  obtain ⟨t, ht, rfl⟩ := Option.map_eq_some_iff.mp hspan
  exact hfront t (Array.mem_of_find?_eq_some ht)

/-- A thread may start at a place. -/
theorem unopened_start (hcode : .openGroup ∉ code) (best : Option Span) (limit : Nat) (spot : Spot)
    (hfront : front.Unopened) :
    (if best.isNone then front.follow code spot limit [⟨0, none, none⟩] else front).Unopened := by
  split
  · apply unopened_follow hcode spot limit hfront
    rw [List.forall_mem_singleton]
    rfl
  · exact hfront

theorem unopened_searchFrom (hcode : .openGroup ∉ code) (limit position : Nat) (before : Option Char)
    (hbest : Unopened best) (hfront : front.Unopened) (cs : List Char) :
    Unopened (searchFrom code limit position before best front cs) := by
  -- from character to character, neither the best match so far nor a thread notes where the group starts
  induction cs generalizing position before best front with
  | nil =>
    rw [searchFrom]
    intro span hspan
    rcases Option.or_eq_some_iff.mp hspan with hdone | ⟨-, hbefore⟩
    · exact unopened_firstDone (unopened_start hcode _ limit _ hfront) span hdone
    · exact hbest span hbefore
  | cons c rest ih =>
    have hnext := unopened_start hcode best limit ⟨position, before, some c⟩ hfront
    rw [searchFrom]
    dsimp only
    generalize ite (best.isNone = true) _ front = next at hnext ⊢
    split
    · exact hbest
    · obtain ⟨hbest', hfront'⟩ := unopened_advance hcode limit ⟨position + 1, some c, rest.head?⟩ c hbest
        (Front.unopened_empty next.marks) fun t ht => hnext t (Array.mem_toList_iff.mp ht)
      exact ih (position + 1) (some c) hbest' hfront'

theorem unopened_search (hcode : .openGroup ∉ code) (cs : List Char) : Unopened (search code cs) := by
  have hnone : Unopened none := by
    intro span hspan
    cases hspan
  exact unopened_searchFrom hcode _ 0 none hnone (Front.unopened_empty _) cs

/-- The matches of a pattern without a first group have no group. -/
theorem group_eq_none_of_compile? {pattern text : String} {n : Node} {r : Regex} {m : Match}
    (hread : read? pattern = some n) (hn : n.hasFirstGroup = false) (hr : compile? pattern = some r)
    (hm : r.firstMatch? text = some m) : m.group = none := by
  have hcode : r.code = n.program := by
    simp only [compile?, hread, bind, Option.bind, pure] at hr
    split at hr
    · cases hr
      rfl
    · cases hr
  obtain ⟨span, hspan, rfl⟩ := Option.map_eq_some_iff.mp hm
  rw [hcode] at hspan
  have hstart := unopened_search (Node.openGroup_notMem_program hn) text.toList span hspan
  rw [Option.map_eq_none_iff, Span.cut, hstart]
  rfl

end SiteProbe.Regex
