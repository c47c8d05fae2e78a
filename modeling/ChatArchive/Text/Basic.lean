import ChatArchive.Unicode.CharSet

/-!
# Text

Blanks, trimming, cutting at separators and searching, on lists of characters.  A blank is a
white-space character of any script.
-/

namespace ChatArchive.Text

open ChatArchive.Unicode

/-! ## Blanks -/

/-- White space of any script. -/
def isBlank (c : Char) : Bool := CharSet.whiteSpace.contains c

/-- A control character. -/
def isControl (c : Char) : Bool := CharSet.controls.contains c

/-- Without the blanks at the start. -/
def trimStart (cs : List Char) : List Char := cs.dropWhile isBlank

/-- Without the blanks at the end. -/
def trimEnd (cs : List Char) : List Char := (cs.reverse.dropWhile isBlank).reverse

/-- Without the blanks at either end. -/
def trim (cs : List Char) : List Char := trimEnd (trimStart cs)

/-! ## Cutting -/

/-- The pieces between the characters that separate; there is always at least one. -/
def splitBy (separates : Char → Bool) (cs : List Char) : List (List Char) :=
  cs.foldr (fun c pieces =>
    if separates c then [] :: pieces
    else match pieces with
      | p :: rest => (c :: p) :: rest
      | [] => [[c]]) [[]]

/-- The pieces that hold a character. -/
def fields (separates : Char → Bool) (cs : List Char) : List (List Char) :=
  (splitBy separates cs).filter fun p => !p.isEmpty

/-! ## Searching -/

/-- The position of the first occurrence at or after the current one, which is `position`. -/
def findFrom (needle : List Char) (position : Nat) : List Char → Option Nat
  | [] => if needle.isEmpty then some position else none
  | c :: cs =>
    if needle.isPrefixOf (c :: cs) then some position else findFrom needle (position + 1) cs

/-- The position of the first occurrence of `needle`. -/
def find? (needle text : List Char) : Option Nat := findFrom needle 0 text

/-- Does `needle` occur in the text? -/
def occursIn (needle text : List Char) : Bool := (find? needle text).isSome

/-- Replace the first occurrence of `needle`. -/
def replaceFirst (needle replacement text : List Char) : List Char :=
  match find? needle text with
  | some i => text.take i ++ replacement ++ text.drop (i + needle.length)
  | none => text

/-- Without duplicates, in order of first occurrence. -/
def dedup {α : Type} [BEq α] (xs : List α) : List α :=
  (xs.foldl (fun seen x => if seen.contains x then seen else x :: seen) []).reverse

/-- A digit of a number in base sixteen, as a capital. -/
def hexCapital (n : Nat) : Char := Char.ofNat (if n < 10 then 0x30 + n else 0x37 + n)

/-- Texts with a separator between them. -/
def join (separator : String) (texts : List String) : String := String.intercalate separator texts

end ChatArchive.Text
