import ChatArchive.Calendar.Timestamp
import ChatArchive.Query.Matching

/-!
# Records

One conversation as the archive knows it: its identifier, title and time, whether it is selected,
its content once that was fetched, and where the current search found something.
-/

namespace ChatArchive

namespace Record

/-- Where a search found something. -/
inductive Place where
  | title
  | content
  | both
  deriving Repr, DecidableEq

/-- The label that is shown for a place. -/
def Place.label : Place → String
  | title => "title"
  | content => "content"
  | both => "title+content"

/-- What a search found. -/
structure Hit where
  place : Place
  preview : String
  deriving Repr, DecidableEq

/-- The content of a conversation, which is never empty. -/
abbrev Content := { t : SearchText // t.text ≠ "" }

/-- The content of a text; an empty one is none. -/
def Content.ofString? (s : String) : Option Content :=
  if h : s = "" then none else some ⟨SearchText.ofString s, h⟩

end Record

/-- A conversation. -/
structure Record where
  id : String
  title : SearchText
  updatedAt : Timestamp
  selected : Bool
  /-- What was fetched. -/
  content : Option Record.Content
  /-- Has content been fetched? -/
  isIndexed : Bool
  isIndexed_eq : isIndexed = content.isSome
  hit : Option Record.Hit

namespace Record

/-- A conversation of which only the listing is known. -/
def ofListing (id title : String) (updatedAt : Timestamp) : Record where
  id := id
  title := SearchText.ofString title
  updatedAt := updatedAt
  selected := false
  content := none
  isIndexed := false
  isIndexed_eq := rfl
  hit := none

/-- The content as it was fetched. -/
def contentText? (r : Record) : Option String := r.content.map fun c => c.val.text

/-- Give another title. -/
def setTitle (r : Record) (title : String) : Record := { r with title := SearchText.ofString title }

/-- Give content; an empty one changes nothing. -/
def setContent (r : Record) (content : String) : Record :=
  match Content.ofString? content with
  | some c => { r with content := some c, isIndexed := true, isIndexed_eq := rfl }
  | none => r

/-- Give another time. -/
def setUpdatedAt (r : Record) (t : Timestamp) : Record := { r with updatedAt := t }

/-- Select, or drop from the selection. -/
def setSelected (r : Record) (on : Bool) : Record := { r with selected := on }

/-- Note what the current search found. -/
def setHit (r : Record) (hit : Option Hit) : Record := { r with hit := hit }

end Record

end ChatArchive
