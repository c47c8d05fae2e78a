import ChatArchive.Unicode.Lookup
import ChatArchive.Unicode.CaseMap

/-!
# Search patterns

The abstract syntax of search patterns.  A pattern is built from sets of characters and
conditions on a position; all that depends on flags (letter case, line mode, the meaning of a
dot) is already resolved into the sets and conditions when a pattern is built.
-/

namespace ChatArchive

namespace Pattern

open ChatArchive.Unicode

/-! ## Conditions on a position -/

/-- What a word consists of. -/
inductive WordKind where
  | ascii
  | unicode
  deriving Repr, DecidableEq

/-- Conditions on a position in the text that consume no character. -/
inductive Look where
  /-- At the start of the text. -/
  | textStart
  /-- At the end of the text. -/
  | textEnd
  /-- After a line feed, or at the start. -/
  | lineStart
  /-- Before a line feed, or at the end. -/
  | lineEnd
  /-- As `lineStart`, where a carriage return ends a line as well. -/
  | crlfStart
  /-- As `lineEnd`, where a carriage return ends a line as well. -/
  | crlfEnd
  /-- Between a word character and something else. -/
  | wordBoundary (k : WordKind)
  /-- Not at a word boundary. -/
  | notWordBoundary (k : WordKind)
  /-- Before a word. -/
  | wordStart (k : WordKind)
  /-- After a word. -/
  | wordEnd (k : WordKind)
  /-- Not after a word character. -/
  | wordStartHalf (k : WordKind)
  /-- Not before a word character. -/
  | wordEndHalf (k : WordKind)
  deriving Repr, DecidableEq

/-- The ASCII word characters. -/
def asciiWord : CharSet :=
  ⟨[('0'.toNat, '9'.toNat), ('A'.toNat, 'Z'.toNat), ('_'.toNat, '_'.toNat),
    ('a'.toNat, 'z'.toNat)]⟩

/-- Is there a character, and does it belong to words? -/
def WordKind.isWord (k : WordKind) (c : Option Char) : Bool :=
  c.any fun c => match k with
    | .ascii => asciiWord.contains c
    | .unicode => wordCharacters.contains c

/-- Does the condition hold between two characters?  A missing neighbour is an end of the
text. -/
def Look.holds (l : Look) (before after : Option Char) : Bool :=
  match l with
  | .textStart => before.isNone
  | .textEnd => after.isNone
  | .lineStart => before.isNone || before == some '\n'
  | .lineEnd => after.isNone || after == some '\n'
  | .crlfStart =>
    before.isNone || before == some '\n' || (before == some '\r' && after != some '\n')
  | .crlfEnd =>
    after.isNone || after == some '\r' || (after == some '\n' && before != some '\r')
  | .wordBoundary k => k.isWord before != k.isWord after
  | .notWordBoundary k => k.isWord before == k.isWord after
  | .wordStart k => !k.isWord before && k.isWord after
  | .wordEnd k => k.isWord before && !k.isWord after
  | .wordStartHalf k => !k.isWord before
  | .wordEndHalf k => !k.isWord after

/-! ## Patterns -/

end Pattern

/-- A pattern.  Of two alternatives the first is preferred, and a greedy repetition prefers
another round. -/
inductive Pattern where
  /-- The empty text. -/
  | empty
  /-- One character of a set. -/
  | set (s : Unicode.CharSet)
  /-- A condition on the position. -/
  | look (l : Pattern.Look)
  /-- A group that captures. -/
  | capture (p : Pattern)
  /-- One after the other. -/
  | seq (p q : Pattern)
  /-- One or the other. -/
  | alt (p q : Pattern)
  /-- Between `least` and `most` rounds, without an upper bound if `most` is missing. -/
  | repeated (p : Pattern) (least : Nat) (most : Option Nat) (greedy : Bool)
  deriving Repr

namespace Pattern

open ChatArchive.Unicode

/-- Does every match consume a character?  A set without characters matches nothing and counts
as consuming nothing. -/
def consumes : Pattern → Bool
  | empty => false
  | set s => !s.isEmpty
  | look _ => false
  | capture p => p.consumes
  | seq p q => p.consumes || q.consumes
  | alt p q => p.consumes && q.consumes
  | repeated p least _ _ => 0 < least && p.consumes

/-- Does no match consume a character? -/
def isZeroWidth : Pattern → Bool
  | empty => true
  | set _ => false
  | look _ => true
  | capture p => p.isZeroWidth
  | seq p q => p.isZeroWidth && q.isZeroWidth
  | alt p q => p.isZeroWidth && q.isZeroWidth
  | repeated p _ _ _ => p.isZeroWidth

/-- Repetition.  No round and one round are simpler patterns, and rounds of a pattern that
consumes nothing need not be repeated. -/
def repetition (p : Pattern) (least : Nat) (most : Option Nat) (greedy : Bool) : Pattern :=
  let lo := if p.isZeroWidth then min least 1 else least
  let hi := if p.isZeroWidth then some (min (most.getD 1) 1) else most
  if lo = 0 ∧ hi = some 0 then empty
  else if lo = 1 ∧ hi = some 1 then p
  else repeated p lo hi greedy

/-- One pattern after the other, in order. -/
def sequence : List Pattern → Pattern
  | [] => empty
  | [p] => p
  | p :: ps => seq p (sequence ps)

/-- Any of the patterns, the first ones preferred. -/
def choice : List Pattern → Pattern
  | [] => empty
  | [p] => p
  | p :: ps => alt p (choice ps)

/-! ## Letter case -/

/-- All pairs of a code point and its folded form, where they differ. -/
def foldPairs : List (Nat × Nat) :=
  foldRuns.flatMap fun r => r.sources.map fun n => (n, r.move n)

/-- The characters that fold to the same form as one of the set, together with the set. -/
def foldClosure (s : CharSet) : CharSet :=
  let hit := foldPairs.filter fun p => s.containsCode p.1 || s.containsCode p.2
  let targets := CharSet.ofRanges (hit.map fun p => (p.2, p.2))
  let sources := foldPairs.filter fun p => targets.containsCode p.2
  CharSet.unions [s, targets, CharSet.ofRanges (sources.map fun p => (p.1, p.1))]

/-- The closure under the case of ASCII letters alone. -/
def asciiFoldClosure (s : CharSet) : CharSet :=
  let letters := (List.range 26).filter fun i =>
    s.containsCode ('A'.toNat + i) || s.containsCode ('a'.toNat + i)
  CharSet.unions
    [s, CharSet.ofRanges (letters.map fun i => ('A'.toNat + i, 'A'.toNat + i)),
     CharSet.ofRanges (letters.map fun i => ('a'.toNat + i, 'a'.toNat + i))]

end Pattern

end ChatArchive
