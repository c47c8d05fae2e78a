import ChatArchive.Unicode.CaseMap
import ChatArchive.Unicode.Property
import ChatArchive.Text.Basic

/-!
# Lowercase

The lowercase of a text, by the rules of Unicode.  Every character is mapped on its own with one
exception: a capital sigma becomes a final sigma where it ends a word.
-/

namespace ChatArchive.Text

open ChatArchive.Unicode

/-! ## Single characters -/

/-- The lowercase of a character on its own.  The capital I with a dot has a lowercase of two
characters. -/
def lowerChar (c : Char) : List Char :=
  if c.toNat < 0x80 then
    [if 'A' ≤ c ∧ c ≤ 'Z' then Char.ofNat (c.toNat + 32) else c]
  else if c = '\u0130' then ['i', '\u0307']
  else [Char.ofNat (mapRuns lowercaseRuns c.toNat)]

/-! ## The final sigma -/

/-- Characters that have letter case. -/
def casedSet : CharSet := Property.cased.members

/-- Characters that a word-final sigma looks past. -/
def caseIgnorableSet : CharSet := Property.caseIgnorable.members

/-- Is the first character that counts a cased one? -/
def reachesCased (cs : List Char) : Bool :=
  match cs.dropWhile caseIgnorableSet.contains with
  | c :: _ => casedSet.contains c
  | [] => false

/-- Does a sigma end a word?  `before` is the text before it, the nearest character first, and
`after` the text after it. -/
def isWordFinal (before after : List Char) : Bool :=
  reachesCased before && !reachesCased after

/-- The lowercase of a character in its context. -/
def lowerIn (before : List Char) (c : Char) (after : List Char) : List Char :=
  if c = 'Σ' then [if isWordFinal before after then 'ς' else 'σ'] else lowerChar c

/-! ## Texts -/

/-- The lowercase of the rest of a text: `before` is what came before, the nearest character
first, and `out` the lowercase of it, backwards. -/
def lowercaseFrom (before out : List Char) : List Char → List Char
  | [] => out.reverse
  | c :: after =>
    lowercaseFrom (c :: before) ((lowerIn before c after).reverse ++ out) after

/-- The lowercase of a text. -/
def lowercase (cs : List Char) : List Char := lowercaseFrom [] [] cs

/-- The lowercase of a string. -/
def lower (s : String) : String := String.ofList (lowercase s.toList)

/-- For each character of the lowercase, the position in the text of the character that it comes
from. -/
def owners (cs : List Char) : List Nat :=
  cs.zipIdx.flatMap fun (c, i) => (lowerChar c).map fun _ => i

end ChatArchive.Text
