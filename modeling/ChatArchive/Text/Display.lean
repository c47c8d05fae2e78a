import ChatArchive.Text.Basic

/-!
# Text for the terminal

Titles and contents come from elsewhere and may hold escape sequences.  Before a text is shown,
complete control sequences and then all control characters are dropped; for a single line, blanks
become spaces and what is too long is cut.
-/

namespace ChatArchive.Text

/-! ## Control sequences -/

/-- The character that starts an escape sequence. -/
def escapeMark : Char := '\x1b'

/-- Characters that may stand between the bracket and the letter of a control sequence. -/
def isParameter (c : Char) : Bool := c.isDigit || c == ';' || c == '?'

/-- What follows a control sequence that starts here: a mark, a bracket, parameters and a
letter. -/
def afterSequence? (cs : List Char) : Option (List Char) :=
  match cs with
  | mark :: '[' :: rest =>
    if mark = escapeMark then
      match rest.dropWhile isParameter with
      | letter :: tail => if letter.isAlpha then some tail else none
      | [] => none
    else none
  | _ => none

/-- What follows is shorter. -/
theorem afterSequence?_length {cs rest : List Char} (h : afterSequence? cs = some rest) :
    rest.length < cs.length := by
  unfold afterSequence? at h
  split at h
  · rename_i mark tail
    split at h
    · split at h
      · rename_i letter more heq
        split at h
        · cases h
          have hle := (List.dropWhile_sublist isParameter (l := tail)).length_le
          rw [heq] at hle
          simp at hle ⊢
          omega
        · cases h
      · cases h
    · cases h
  · cases h

/-- Drop the complete control sequences, from left to right. -/
def dropSequences (cs : List Char) : List Char :=
  match cs with
  | [] => []
  | c :: tail =>
    match _h : afterSequence? (c :: tail) with
    | some rest => dropSequences rest
    | none => c :: dropSequences tail
termination_by cs.length
decreasing_by
  · have := afterSequence?_length _h
    simpa using this
  · simp

/-! ## Plain text -/

/-- Control characters that are kept. -/
def isLayout (c : Char) : Bool := c == '\t' || c == '\n' || c == '\r'

/-- Without control sequences and without control characters but those of layout. -/
def plain (cs : List Char) : List Char :=
  (dropSequences cs).filter fun c => !isControl c || isLayout c

/-- Marks the end of a text that was cut. -/
def cutMark : List Char := "...".toList

/-- At most `width` characters, or the mark alone where that is longer. -/
def clip (width : Nat) (cs : List Char) : List Char :=
  if cs.length ≤ width then cs else cs.take (width - cutMark.length) ++ cutMark

/-- A single line of plain text. -/
def line (width : Nat) (cs : List Char) : List Char :=
  clip width (trim ((plain cs).map fun c => if isBlank c then ' ' else c))

/-- A plain text. -/
def plainText (s : String) : String := String.ofList (plain s.toList)

/-- A text on a single line. -/
def lineText (width : Nat) (s : String) : String := String.ofList (line width s.toList)

end ChatArchive.Text
