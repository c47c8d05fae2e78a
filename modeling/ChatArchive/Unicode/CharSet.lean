/-!
# Sets of characters

A set of characters is a list of inclusive ranges of code points.  The ranges of a set that the
operations below build are in increasing order and neither touch nor overlap, so that membership
can stop early and the complement is the list of gaps.
-/

namespace ChatArchive.Unicode

/-- The greatest code point. -/
def maxCodePoint : Nat := 0x10FFFF

/-- A set of characters as inclusive ranges of code points. -/
structure CharSet where
  ranges : List (Nat × Nat)
  deriving Repr, DecidableEq

namespace CharSet

/-! ## Membership -/

/-- Is the code point in one of the ranges?  The ranges are taken to be in increasing order. -/
def containsIn : List (Nat × Nat) → Nat → Bool
  | [], _ => false
  | (lo, hi) :: rest, n => if n < lo then false else n ≤ hi || containsIn rest n

/-- Is the code point in the set? -/
def containsCode (s : CharSet) (n : Nat) : Bool := containsIn s.ranges n

/-- Is the character in the set? -/
def contains (s : CharSet) (c : Char) : Bool := s.containsCode c.toNat

/-! ## Building sets -/

/-- Join ranges that are sorted by their lower ends. -/
def joinSorted : List (Nat × Nat) → List (Nat × Nat)
  | [] => []
  | (lo, hi) :: rest => go lo hi rest
where
  /-- `lo` to `hi` is the range being grown. -/
  go (lo hi : Nat) : List (Nat × Nat) → List (Nat × Nat)
    | [] => [(lo, hi)]
    | (a, b) :: rest =>
      if a ≤ hi + 1 then go lo (max hi b) rest else (lo, hi) :: go a b rest

/-- The set of some ranges in any order. -/
def ofRanges (rs : List (Nat × Nat)) : CharSet :=
  ⟨joinSorted ((rs.filter fun r => r.1 ≤ r.2).mergeSort fun a b => a.1 ≤ b.1)⟩

/-- No character. -/
def empty : CharSet := ⟨[]⟩

/-- Is there no character in the set? -/
def isEmpty (s : CharSet) : Bool := s.ranges.isEmpty

/-- All characters. -/
def all : CharSet := ⟨[(0, maxCodePoint)]⟩

/-- One character. -/
def singleton (c : Char) : CharSet := ⟨[(c.toNat, c.toNat)]⟩

/-- The characters from `a` to `b`. -/
def range (a b : Char) : CharSet := ofRanges [(a.toNat, b.toNat)]

/-! ## Algebra -/

/-- The characters of one of the sets. -/
def union (s t : CharSet) : CharSet := ofRanges (s.ranges ++ t.ranges)

/-- The characters of one of many sets, which are sorted only once. -/
def unions (ss : List CharSet) : CharSet := ofRanges (ss.flatMap ranges)

/-- The gaps of sorted ranges, from `next` upwards. -/
def gaps (next : Nat) : List (Nat × Nat) → List (Nat × Nat)
  | [] => if next ≤ maxCodePoint then [(next, maxCodePoint)] else []
  | (lo, hi) :: rest =>
    if next < lo then (next, lo - 1) :: gaps (hi + 1) rest else gaps (hi + 1) rest

/-- The characters that are not in the set. -/
def complement (s : CharSet) : CharSet := ⟨gaps 0 s.ranges⟩

/-- The characters of both sets. -/
def inter (s t : CharSet) : CharSet := (s.complement.union t.complement).complement

/-- The characters of the first set that are not in the second one. -/
def difference (s t : CharSet) : CharSet := s.inter t.complement

/-- The characters of one of the two sets but not of both. -/
def symmDiff (s t : CharSet) : CharSet := (s.union t).difference (s.inter t)

/-! ## Text form

Tables write a set as hexadecimal ranges: `41-5A`, a single code point `AA`, and `100-12E/2` for
every second one. -/

/-- The value of a hexadecimal digit. -/
def hexDigit? (c : Char) : Option Nat :=
  if '0' ≤ c ∧ c ≤ '9' then some (c.toNat - '0'.toNat)
  else if 'A' ≤ c ∧ c ≤ 'F' then some (c.toNat - 'A'.toNat + 10)
  else if 'a' ≤ c ∧ c ≤ 'f' then some (c.toNat - 'a'.toNat + 10)
  else none

/-- A range while it is being read: its lower end, the number being read, and whether it steps
by two. -/
structure Pending where
  low : Option Nat
  number : Nat
  alternating : Bool

/-- The ranges that a pending entry stands for. -/
def Pending.ranges (p : Pending) : List (Nat × Nat) :=
  let lo := p.low.getD p.number
  if p.alternating then
    (List.range ((p.number - lo) / 2 + 1)).map fun i => (lo + 2 * i, lo + 2 * i)
  else [(lo, p.number)]

/-- Read the ranges of a line. -/
def rangesOfText (line : List Char) : List (Nat × Nat) :=
  go ⟨none, 0, false⟩ line
where
  go (p : Pending) : List Char → List (Nat × Nat)
    | [] => p.ranges
    | c :: cs =>
      if c = ' ' then p.ranges ++ go ⟨none, 0, false⟩ cs
      else if c = '-' then go ⟨some p.number, 0, false⟩ cs
      else if c = '/' then go { p with alternating := true } (cs.drop 1)
      else match hexDigit? c with
        | some d => go { p with number := p.number * 16 + d } cs
        | none => go p cs
  termination_by cs => cs.length
  decreasing_by all_goals simp only [List.length_cons, List.length_drop]; omega

/-- The set that the lines of a table name. -/
def ofText (lines : List String) : CharSet :=
  ofRanges (lines.flatMap fun l => rangesOfText l.toList)

/-! ## Sets that need no table -/

/-- White space of every script. -/
def whiteSpace : CharSet :=
  ⟨[(0x9, 0xD), (0x20, 0x20), (0x85, 0x85), (0xA0, 0xA0), (0x1680, 0x1680), (0x2000, 0x200A),
    (0x2028, 0x2029), (0x202F, 0x202F), (0x205F, 0x205F), (0x3000, 0x3000)]⟩

/-- The control characters. -/
def controls : CharSet := ⟨[(0x0, 0x1F), (0x7F, 0x9F)]⟩

end CharSet

end ChatArchive.Unicode
