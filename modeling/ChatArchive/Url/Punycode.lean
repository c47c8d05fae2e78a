/-!
# Punycode

The label of a host name in ASCII: the ASCII characters of the label, a hyphen, and the other
characters as a sequence of numbers.  Each number says how many steps to go, through all places
and code points in increasing order, to the next character that is put in.
-/

namespace ChatArchive.Url.Punycode

/-! ## Numbers

A number is written in base 36, the least digit first.  A digit below the threshold of its place is
the last one; the thresholds depend on a bias that adapts to the numbers seen. -/

/-- A digit: `a` to `z`, then `0` to `9`. -/
def digitChar (d : Nat) : Char := Char.ofNat (if d < 26 then 0x61 + d else 0x30 + (d - 26))

/-- The value of a digit, also of a capital one. -/
def digitValue? (c : Char) : Option Nat :=
  if 'a' ≤ c ∧ c ≤ 'z' then some (c.toNat - 0x61)
  else if 'A' ≤ c ∧ c ≤ 'Z' then some (c.toNat - 0x41)
  else if '0' ≤ c ∧ c ≤ '9' then some (c.toNat - 0x30 + 26)
  else none

/-- The threshold of a place: between 1 and 26. -/
def threshold (place bias : Nat) : Nat := min 26 (max 1 (place - bias))

/-- No threshold is 0, so a digit that is not the last one leaves a smaller number. -/
theorem threshold_pos (place bias : Nat) : 0 < threshold place bias := by
  unfold threshold; omega

/-- Divide until at most 455 is left, counting 36 for each time. -/
def scaleDown (delta count : Nat) : Nat × Nat :=
  if 455 < delta then scaleDown (delta / 35) (count + 36) else (delta, count)
termination_by delta
decreasing_by exact Nat.div_lt_self (by omega) (by omega)

/-- The bias after a number; `points` is the length of the label by then. -/
def adapt (delta points : Nat) (first : Bool) : Nat :=
  let halved := if first then delta / 700 else delta / 2
  let (rest, count) := scaleDown (halved + halved / points) 0
  count + 36 * rest / (rest + 38)

/-! ## Writing -/

/-- Write a number from its least digit on. -/
def writeNumber (bias place n : Nat) : List Char :=
  let t := threshold place bias
  if n < t then [digitChar n]
  else digitChar (t + (n - t) % (36 - t)) :: writeNumber bias (place + 36) ((n - t) / (36 - t))
termination_by n
decreasing_by
  have _h := threshold_pos place bias
  have h' : (n - threshold place bias) / (36 - threshold place bias) ≤ n - threshold place bias :=
    Nat.div_le_self _ _
  omega

/-- How far writing is: the steps since the last character, the bias, and the characters
written. -/
structure Progress where
  out : List Char
  delta : Nat
  bias : Nat
  handled : Nat

/-- Pass a character while those of one code point are put in. -/
def Progress.pass (basic code : Nat) (p : Progress) (c : Char) : Progress :=
  if c.toNat < code then { p with delta := p.delta + 1 }
  else if c.toNat = code then
    { out := p.out ++ writeNumber p.bias 36 p.delta
      delta := 0
      bias := adapt p.delta (p.handled + 1) (p.handled == basic)
      handled := p.handled + 1 }
  else p

/-- Put in the characters of one code point after those below `next`. -/
def Progress.put (label : List Char) (basic : Nat) : Nat × Progress → Nat → Nat × Progress
  | (next, p), code =>
    let p := { p with delta := p.delta + (code - next) * (p.handled + 1) }
    let p := label.foldl (pass basic code) p
    (code + 1, { p with delta := p.delta + 1 })

/-- A label in ASCII, without the mark in front. -/
def encode (label : List Char) : List Char :=
  let basic := label.filter fun c => c.toNat < 0x80
  let codes := (label.map Char.toNat).filter fun n => 0x80 ≤ n
  let increasing := (codes.mergeSort (· ≤ ·)).eraseReps
  let (_, p) := increasing.foldl (Progress.put label basic.length) (0x80, ⟨[], 0, 72, basic.length⟩)
  basic ++ (if basic.isEmpty then [] else ['-']) ++ p.out

/-! ## Reading -/

/-- The number at the start of a text, times `weight`, and what follows it. -/
def readNumber (bias place weight : Nat) : (cs : List Char) →
    Option (Nat × { rest : List Char // rest.length < cs.length })
  | [] => none
  | c :: cs =>
    match digitValue? c with
    | none => none
    | some d =>
      let t := threshold place bias
      if d < t then some (d * weight, ⟨cs, by simp⟩)
      else
        match readNumber bias (place + 36) (weight * (36 - t)) cs with
        | none => none
        | some (n, ⟨rest, h⟩) => some (d * weight + n, ⟨rest, by simp; omega⟩)

/-- Put in the characters that the rest of a text stands for. -/
def insertAll (bias next place : Nat) (out : List Char) (cs : List Char) : Option (List Char) :=
  if cs.isEmpty then some out
  else
    match readNumber bias 36 1 cs with
    | none => none
    | some (n, ⟨rest, _h⟩) =>
      let points := out.length + 1
      let total := place + n
      let code := next + total / points
      let at_ := total % points
      if code < 0x110000 ∧ code.isValidChar then
        insertAll (adapt n points (place == 0)) code (at_ + 1)
          (out.insertIdx at_ (Char.ofNat code)) rest
      else none
termination_by cs.length

/-- The label that a text stands for. -/
def decode (cs : List Char) : Option (List Char) :=
  let (last, before) := cs.reverse.span (· != '-')
  match before with
  | [] => insertAll 72 0x80 0 [] cs
  | _ :: basic => insertAll 72 0x80 0 basic.reverse last.reverse

end ChatArchive.Url.Punycode
