import ChatArchive.Text.Lowercase
import ChatArchive.Query.Basic

/-!
# Matching

Whether a text satisfies a query, and where.  A text that holds an excluded term satisfies no
query.  Terms are looked for in the lowercase of the text, patterns in the text itself.
-/

namespace ChatArchive

open ChatArchive.Text

/-! ## Searchable texts -/

/-- A text with its lowercase. -/
structure SearchText where
  text : String
  lowered : String
  lowered_eq : lowered = lower text

namespace SearchText

/-- A text with its lowercase worked out. -/
def ofString (s : String) : SearchText := ⟨s, lower s, rfl⟩

end SearchText

namespace Query

/-! ## Tests -/

/-- Does a term occur in a lowercase text? -/
def hasTerm (lowered term : String) : Bool := occursIn term.toList lowered.toList

/-- Does an excluded term occur in the lowercase text? -/
def isExcluded (q : Query) (lowered : String) : Bool := q.exclusions.any (hasTerm lowered)

/-- Does the text satisfy the mode?  Identifiers are not looked for in texts. -/
def Mode.accepts (m : Mode) (t : SearchText) : Bool :=
  match m with
  | .none | .all => true
  | .contains term => hasTerm t.lowered term
  | .any terms => terms.any (hasTerm t.lowered)
  | .pattern p => p.isMatch t.text.toList
  | .ids _ => false

/-- Does the text satisfy the query? -/
def accepts (q : Query) (t : SearchText) : Bool :=
  !q.isExcluded t.lowered && q.mode.accepts t

/-- Does the identifier contain one of those that the query lists?  Letter case counts. -/
def acceptsId (q : Query) (id : String) : Bool :=
  match q.mode with
  | .ids wanted => wanted.any fun w => occursIn w.toList id.toList
  | _ => false

/-! ## Positions -/

/-- A run of characters of a text. -/
structure Span where
  start : Nat
  length : Nat
  deriving Repr, DecidableEq

/-- The characters of a text whose lowercase makes up the first occurrence of a lowercase
term. -/
def locateTerm (text : List Char) (term : List Char) : Option Span := do
  if term.isEmpty then none
  else
    let i ← find? term (lowercase text)
    let owned := owners text
    let first ← owned[i]?
    let last ← owned[i + term.length - 1]?
    some ⟨first, last + 1 - first⟩

/-- The span that starts first; of several, the first in the list. -/
def earliest : List Span → Option Span
  | [] => none
  | s :: rest =>
    match earliest rest with
    | some t => if t.start < s.start then some t else some s
    | none => some s

/-- The first place of a text that satisfies the mode. -/
def locate (q : Query) (text : List Char) : Option Span :=
  match q.mode with
  | .contains term => locateTerm text term.toList
  | .any terms => earliest (terms.filterMap fun term => locateTerm text term.toList)
  | .pattern p => (p.find? text).map fun (a, b) => ⟨a, b - a⟩
  | .none | .all | .ids _ => none

/-! ## Snippets -/

/-- The characters of context that a snippet has on each side by default. -/
def defaultContext : Nat := 40

/-- Marks where a snippet leaves text out. -/
def ellipsis : List Char := "...".toList

/-- Line breaks become spaces. -/
def flatten (c : Char) : Char := if c = '\n' ∨ c = '\r' then ' ' else c

/-- A span with `context` characters on each side, and marks where text is left out. -/
def excerpt (text : List Char) (s : Span) (context : Nat) : List Char :=
  let start := s.start - context
  let stop := min (s.start + s.length + context) text.length
  (if 0 < start then ellipsis else []) ++
    ((text.take stop).drop start).map flatten ++
    (if stop < text.length then ellipsis else [])

/-- The first place that satisfies the mode, in its context; empty if there is none. -/
def snippet (q : Query) (text : String) (context : Nat) : String :=
  match q.locate text.toList with
  | some s => String.ofList (excerpt text.toList s context)
  | none => ""

end Query

end ChatArchive
