import ChatArchive.Pattern.Syntax

/-!
# Programs

A pattern compiled into a graph of instructions, each naming its successors.  Where an
instruction has two successors the first is preferred, so that walking the graph in order of
preference meets the matches of a pattern in the order in which its syntax prefers them.
-/

namespace ChatArchive.Pattern

open ChatArchive.Unicode

/-- An instruction; numbers are the addresses of the successors. -/
inductive Instruction where
  /-- Consume a character of the set. -/
  | consume (s : CharSet) (next : Nat)
  /-- Go on if the condition holds here. -/
  | check (l : Look) (next : Nat)
  /-- Try the first successor, then the second. -/
  | fork (first second : Nat)
  /-- The whole pattern has matched. -/
  | accept
  deriving Repr

/-- A program and its entry. -/
structure Program where
  code : Array Instruction
  start : Nat
  deriving Repr

/-- A fork that prefers the round if the repetition is greedy. -/
def forkFor (greedy : Bool) (round leave : Nat) : Instruction :=
  if greedy then .fork round leave else .fork leave round

/-- Run a step on code and an entry `n` times. -/
def times (step : Array Instruction → Nat → Array Instruction × Nat) :
    Nat → Array Instruction → Nat → Array Instruction × Nat
  | 0, code, entry => (code, entry)
  | n + 1, code, entry =>
    let (code, entry) := step code entry
    times step n code entry

/-- Add the code of a pattern that goes on at `next`; gives its entry.

A round of an unbounded repetition that may consume nothing is entered before the choice to
repeat it, so that an empty round is still preferred where the syntax prefers it. -/
def assemble : Pattern → Array Instruction → Nat → Array Instruction × Nat
  | empty, code, next => (code, next)
  | set s, code, next => (code.push (.consume s next), code.size)
  | look l, code, next => (code.push (.check l next), code.size)
  | capture p, code, next => p.assemble code next
  | seq p q, code, next =>
    let (code, middle) := q.assemble code next
    p.assemble code middle
  | alt p q, code, next =>
    let (code, second) := q.assemble code next
    let (code, first) := p.assemble code next
    (code.push (.fork first second), code.size)
  | repeated p least (some most) greedy, code, next =>
    let optional := fun code (entry : Nat) =>
      let (code, round) := p.assemble code entry
      (code.push (forkFor greedy round next), code.size)
    let (code, entry) := times optional (most - least) code next
    times p.assemble least code entry
  | repeated p least none greedy, code, next =>
    let again := code.size
    let (code, round) := p.assemble (code.push (.fork next next)) again
    let code := code.set! again (forkFor greedy round next)
    if least = 0 then
      if p.consumes then (code, again)
      else (code.push (forkFor greedy round next), code.size)
    else times p.assemble (least - 1) code round

/-- The program of a pattern. -/
def compile (p : Pattern) : Program :=
  let (code, start) := p.assemble #[.accept] 0
  ⟨code, start⟩

end ChatArchive.Pattern
