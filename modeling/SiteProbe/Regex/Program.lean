import SiteProbe.Regex.Node

/-!
# Programs of expressions

An expression becomes a program: instructions that read a character, check the place, note where the first group
starts or ends, or go on elsewhere. Where several ways lead on, the first is preferred. A repetition of what can be
empty is one or no repetition of at least once, so that an empty round is never preferred to going on.
-/

namespace SiteProbe.Regex

/-- An instruction; places in the program are counted from its front. -/
inductive Instruction where
  | char (ranges : Array (Nat × Nat))
  | look (look : Look)
  | openGroup
  | closeGroup
  /-- Go on at several places, the preferred one first. -/
  | split (targets : List Nat)
  | done
  deriving Repr, Inhabited

namespace Node

mutual

/-- How many instructions an expression takes. -/
def codeSize : Node → Nat
  | .empty => 0
  | .chars _ => 1
  | .look _ => 1
  | .group i n => if i = 1 then n.codeSize + 2 else n.codeSize
  | .sequence ns => sequenceSize ns
  | .choice ns => choiceSize ns + 1
  | .times min max _ n =>
    match max with
    | some max => min * n.codeSize + (max - min) * (n.codeSize + 1)
    | none => if min = 0 then n.codeSize + 2 else min * n.codeSize + 1

/-- How many instructions expressions in a row take. -/
def sequenceSize : List Node → Nat
  | [] => 0
  | n :: rest => n.codeSize + sequenceSize rest

/-- How many instructions alternatives take, each with the jump behind it. -/
def choiceSize : List Node → Nat
  | [] => 0
  | n :: rest => n.codeSize + 1 + choiceSize rest

end

/-- Repeat a step. -/
def iterate {α : Type} (step : α → α) : Nat → α → α
  | 0, a => a
  | n + 1, a => iterate step n (step a)

/-- Two ways, the first of them preferred if greedy. -/
def ways (greedy : Bool) (inside outside : Nat) : Instruction :=
  .split (if greedy then [inside, outside] else [outside, inside])

/-- The places where alternatives start, the first of them at `start`. -/
def starts (start : Nat) : List Node → List Nat
  | [] => []
  | n :: rest => start :: starts (start + n.codeSize + 1) rest

mutual

/-- Write the instructions of an expression behind those before it. -/
def emit (code : Array Instruction) : Node → Array Instruction
  | .empty => code
  | .chars s => code.push (.char s.toArray)
  | .look l => code.push (.look l)
  | .group i n => if i = 1 then (n.emit (code.push .openGroup)).push .closeGroup else n.emit code
  | .sequence ns => emitSequence code ns
  | .choice ns => emitChoice (code.size + 1 + choiceSize ns) (code.push (.split (starts (code.size + 1) ns))) ns
  | .times min max greedy n =>
    match max with
    | some max =>
      let code := iterate (fun code => n.emit code) min code
      let exit := code.size + (max - min) * (n.codeSize + 1)
      iterate (fun code => n.emit (code.push (ways greedy (code.size + 1) exit))) (max - min) code
    | none =>
      if min = 0 then
        if n.canBeEmpty then
          let start := code.size + 1
          let exit := code.size + n.codeSize + 2
          (n.emit (code.push (ways greedy start exit))).push (ways greedy start exit)
        else
          let start := code.size
          let exit := code.size + n.codeSize + 2
          (n.emit (code.push (ways greedy (start + 1) exit))).push (.split [start])
      else
        let code := iterate (fun code => n.emit code) (min - 1) code
        let start := code.size
        (n.emit code).push (ways greedy start (start + n.codeSize + 1))

/-- Write expressions in a row. -/
def emitSequence (code : Array Instruction) : List Node → Array Instruction
  | [] => code
  | n :: rest => emitSequence (n.emit code) rest

/-- Write alternatives, each followed by a jump to the exit. -/
def emitChoice (exit : Nat) (code : Array Instruction) : List Node → Array Instruction
  | [] => code
  | n :: rest => emitChoice exit ((n.emit code).push (.split [exit])) rest

end

/-- The program of an expression. -/
def program (n : Node) : Array Instruction := (n.emit #[]).push .done

end Node
end SiteProbe.Regex
