import ChatArchive.Pattern.Program

/-!
# Searching

The leftmost match of a program in a text; of the matches that start there, the one that the
program prefers.  All ways through the program advance together, one character at a time and in
order of preference, and no address is followed twice at one position: a less preferred way that
reaches the same address could only repeat what the preferred one does.
-/

namespace ChatArchive.Pattern

/-- A way through the program: the address it waits at and the position where it began. -/
structure Thread where
  address : Nat
  begin : Nat
  deriving Repr, DecidableEq

/-- The ways that reached a position, in order of preference, and for each address the last
position at which it was reached (counted from one). -/
structure Frontier where
  seen : Array Nat
  threads : Array Thread

namespace Program

/-- Follow the addresses on the stack to the instructions that wait for a character or accept.
Each address is expanded once, so that a bound of twice the code and the stack suffices. -/
def follow (p : Program) (before after : Option Char) (position begin : Nat) :
    Nat → List Nat → Frontier → Frontier
  | 0, _, f => f
  | _, [], f => f
  | bound + 1, a :: stack, f =>
    if f.seen[a]? == some (position + 1) then follow p before after position begin bound stack f
    else
      let f := { f with seen := f.seen.setIfInBounds a (position + 1) }
      match p.code[a]? with
      | some (.fork first second) =>
        follow p before after position begin bound (first :: second :: stack) f
      | some (.check l next) =>
        let stack := if l.holds before after then next :: stack else stack
        follow p before after position begin bound stack f
      | some (.consume _ _) | some .accept =>
        follow p before after position begin bound stack
          { f with threads := f.threads.push ⟨a, begin⟩ }
      | none => follow p before after position begin bound stack f

/-- Add the ways from an address. -/
def enter (p : Program) (before after : Option Char) (position begin address : Nat)
    (f : Frontier) : Frontier :=
  p.follow before after position begin (2 * p.code.size + 2) [address] f

/-- Move the ways over a character.  The first way that accepts gives a match that ends here, and
less preferred ways are dropped.  `after` is the character that follows. -/
def step (p : Program) (c after : Option Char) (position : Nat) :
    List Thread → Frontier → Option (Nat × Nat) → Frontier × Option (Nat × Nat)
  | [], next, found => (next, found)
  | t :: ts, next, found =>
    match p.code[t.address]? with
    | some .accept => (next, some (t.begin, position))
    | some (.consume s target) =>
      let next :=
        if c.any s.contains then p.enter c after (position + 1) t.begin target next else next
      p.step c after position ts next found
    | _ => p.step c after position ts next found

/-- Search the rest of a text.  While nothing has matched, a new way begins at each position. -/
def run (p : Program) (before : Option Char) (position : Nat) (f : Frontier)
    (found : Option (Nat × Nat)) : List Char → Option (Nat × Nat)
  | [] =>
    let f :=
      if found.isNone then p.enter before none position position p.start f else f
    (p.step none none position f.threads.toList ⟨#[], #[]⟩ found).2
  | c :: cs =>
    let f :=
      if found.isNone then p.enter before (some c) position position p.start f else f
    if f.threads.isEmpty && found.isSome then found
    else
      let threads := f.threads.toList
      let (next, found) :=
        p.step (some c) cs.head? position threads { f with threads := #[] } found
      p.run (some c) (position + 1) next found cs

/-- The bounds of the leftmost match, in characters. -/
def find? (p : Program) (text : List Char) : Option (Nat × Nat) :=
  p.run none 0 ⟨Array.replicate p.code.size 0, #[]⟩ none text

/-- Does the program match anywhere in the text? -/
def isMatch (p : Program) (text : List Char) : Bool := (p.find? text).isSome

end Program

end ChatArchive.Pattern
