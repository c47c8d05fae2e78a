import ChatArchive.Pattern.Reader
import ChatArchive.Pattern.Search
import ChatArchive.Pattern.Size

/-!
# Matchers

A text that denotes a pattern, together with the program of that pattern.
-/

namespace ChatArchive.Pattern

/-- A pattern that is ready to search with. -/
structure Matcher where
  /-- The text that denotes the pattern. -/
  source : String
  program : Program

namespace Matcher

/-- The matcher of a text, unless the text is no pattern or the pattern is too large. -/
def ofText? (source : String) : Option Matcher := do
  let p ← Pattern.ofText? source.toList
  if fitsSizeLimit p then some ⟨source, p.compile⟩ else none

/-- The bounds of the leftmost match in characters. -/
def find? (m : Matcher) (text : List Char) : Option (Nat × Nat) := m.program.find? text

/-- Does the pattern match anywhere in the text? -/
def isMatch (m : Matcher) (text : List Char) : Bool := m.program.isMatch text

end Matcher

end ChatArchive.Pattern
