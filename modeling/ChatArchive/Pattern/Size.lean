import Std.Data.HashMap
import ChatArchive.Pattern.Syntax

/-!
# The size of a pattern

A pattern is searched for by automata that read the UTF-8 bytes of a text, forwards and
backwards.  Repetitions with counts can make them very large, so a pattern is refused when one of
its automata would take more than `sizeLimit` bytes.  The functions of this module say how many
bytes that is, without building an automaton.

A state takes 32 bytes, a transition of a branching state 8 more and an alternative 4 more.
-/

namespace ChatArchive.Pattern

open ChatArchive.Unicode

/-! ## Byte sequences of a range of characters -/

/-- Split a range of code points until all its members have the same number of bytes and agree in
all bytes but a last run of full ranges.  A range is split at most once per byte and end. -/
def splitRange : Nat → Nat → Nat → List (Nat × Nat)
  | 0, _, _ => []
  | bound + 1, lo, hi =>
    if hi < lo then []
    else if lo < 0xE000 ∧ 0xD7FF < hi then
      splitRange bound lo 0xD7FF ++ splitRange bound 0xE000 hi
    else match [0x7F, 0x7FF, 0xFFFF].find? fun m => lo ≤ m ∧ m < hi with
      | some m => splitRange bound lo m ++ splitRange bound (m + 1) hi
      | none =>
        if hi ≤ 0x7F then [(lo, hi)]
        else match [64, 4096, 262144].find? fun u =>
            lo / u ≠ hi / u ∧ (lo % u ≠ 0 ∨ hi % u ≠ u - 1) with
          | some u =>
            if lo % u ≠ 0 then
              let cut := (lo / u + 1) * u
              splitRange bound lo (cut - 1) ++ splitRange bound cut hi
            else
              let cut := (hi / u) * u
              splitRange bound lo (cut - 1) ++ splitRange bound cut hi
          | none => [(lo, hi)]

/-- The UTF-8 bytes of a code point. -/
def utf8Bytes (n : Nat) : List Nat :=
  if n ≤ 0x7F then [n]
  else if n ≤ 0x7FF then [0xC0 + n / 64, 0x80 + n % 64]
  else if n ≤ 0xFFFF then [0xE0 + n / 4096, 0x80 + n / 64 % 64, 0x80 + n % 64]
  else [0xF0 + n / 262144, 0x80 + n / 4096 % 64, 0x80 + n / 64 % 64, 0x80 + n % 64]

/-- A sequence of byte ranges. -/
abbrev ByteSequence := List (Nat × Nat)

/-- The byte sequences of the characters of a set. -/
def byteSequences (s : CharSet) : List ByteSequence :=
  s.ranges.flatMap fun r =>
    (splitRange 40 r.1 r.2).map fun p => (utf8Bytes p.1).zip (utf8Bytes p.2)

/-! ## Automata of a set -/

/-- Neighbouring sequences with the same first range, that range split off. -/
def groupByHead (seqs : List ByteSequence) : List ((Nat × Nat) × List ByteSequence) :=
  seqs.foldr (fun s groups =>
    match s with
    | [] => groups
    | head :: tail =>
      match groups with
      | (h, tails) :: rest =>
        if h = head then (h, tail :: tails) :: rest else (head, [tail]) :: groups
      | [] => [(head, [tail])]) []

/-- The states of the forward automaton, by their transitions, and their total size. -/
structure StateTable where
  ids : Std.HashMap (List (Nat × Nat × Nat)) Nat
  bytes : Nat

/-- Add the state that reads the sequences, and the states below it; equal states are shared.
The number is the greatest length of a sequence. -/
def addState : Nat → List ByteSequence → StateTable → Nat × StateTable
  | 0, _, t => (0, t)
  | depth + 1, seqs, t =>
    let groups := groupByHead seqs
    if groups.isEmpty then (0, t)
    else
      let (transitions, t) := groups.foldl (fun (acc, t) (head, tails) =>
        let (id, t) := addState depth tails t
        ((head.1, head.2, id) :: acc, t)) (([] : List (Nat × Nat × Nat)), t)
      match t.ids[transitions]? with
      | some id => (id, t)
      | none =>
        let id := t.ids.size + 1
        (id, ⟨t.ids.insert transitions id, t.bytes + 32 + 8 * transitions.length⟩)

/-- The distinct beginnings of the sequences, where only neighbours can share one. -/
def countBeginnings : ByteSequence → List ByteSequence → Nat
  | _, [] => 0
  | before, s :: rest =>
    let shared := ((before.zip s).takeWhile fun p => p.1 == p.2).length
    s.length - shared + countBeginnings s rest

/-- Does the set lie within ASCII? -/
def isAscii (s : CharSet) : Bool := s.ranges.all fun r => r.2 ≤ 0x7F

/-- The bytes that a set takes in the forward automaton. -/
def forwardSetSize (s : CharSet) : Nat :=
  match s.ranges with
  | [] => 32
  | [(a, b)] => if a = b then 32 * (utf8Bytes a).length else general
  | _ => general
where
  general : Nat :=
    if isAscii s then 64 + 8 * s.ranges.length
    else 32 + (addState 4 (byteSequences s) ⟨∅, 0⟩).2.bytes

/-- The bytes that a set takes in the backward automaton. -/
def backwardSetSize (s : CharSet) : Nat :=
  match s.ranges with
  | [] => 32
  | [(a, b)] => if a = b then 32 * (utf8Bytes a).length else general
  | _ => general
where
  general : Nat :=
    if isAscii s then 64 + 8 * s.ranges.length
    else
      let seqs := byteSequences s
      64 + 4 * seqs.length + 32 * countBeginnings [] seqs

/-! ## Automata of a pattern -/

/-- The bytes of the automaton of a pattern, given those of its sets and of a capture. -/
def automatonSize (setSize : CharSet → Nat) (captureSize : Nat) : Pattern → Nat
  | .empty => 32
  | .set s => setSize s
  | .look _ => 32
  | .capture p => automatonSize setSize captureSize p + captureSize
  | .seq p q => automatonSize setSize captureSize p + automatonSize setSize captureSize q
  | .alt p q => automatonSize setSize captureSize p + automatonSize setSize captureSize q + 72
  | .repeated p least (some most) _ =>
    let one := automatonSize setSize captureSize p
    least * one + (if least < most then (most - least) * (one + 40) + 32 else 0)
  | .repeated p least none _ =>
    let one := automatonSize setSize captureSize p
    if least = 0 then (if p.consumes then one + 40 else one + 112) else least * one + 40

/-- The greatest size of an automaton. -/
def sizeLimit : Nat := 10 * 1048576

/-- Do the automata of the pattern stay within the limit?  Beside the pattern an automaton has
its accepting state and the loop that skips what comes before a match. -/
def fitsSizeLimit (p : Pattern) : Bool :=
  automatonSize forwardSetSize 64 p + 64 + 32 + 104 ≤ sizeLimit &&
    automatonSize backwardSetSize 0 p + 32 + 104 ≤ sizeLimit

end ChatArchive.Pattern
