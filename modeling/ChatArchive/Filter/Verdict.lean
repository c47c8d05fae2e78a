import ChatArchive.Filter.Criteria
import ChatArchive.Record.Basic

/-!
# Verdicts

Whether a record is visible under some criteria, and what was found in it.  The bounds come
first, then the query.  The searched fields are the title and, if the criteria ask for it, the
content.

* A query for identifiers looks at the identifier, and hides a record if any searched field holds
  an excluded term.
* Any other query is satisfied by a searched field that satisfies it and holds no excluded term.
-/

namespace ChatArchive

open Record (Hit Place)

/-- The outcome for one record. -/
inductive Verdict where
  | hidden
  /-- Visible, with nothing to show. -/
  | shown
  /-- Visible because of what was found. -/
  | found (hit : Hit)
  deriving Repr, DecidableEq

namespace Verdict

/-- Is the record visible? -/
def isVisible : Verdict → Bool
  | hidden => false
  | shown | found _ => true

/-- What was found. -/
def hit? : Verdict → Option Hit
  | found h => some h
  | hidden | shown => none

end Verdict

namespace Criteria

/-- Stands between the previews of two fields. -/
def previewSeparator : String := " | "

/-- The content of a record, if it is searched. -/
def searchedContent (c : Criteria) (r : Record) : Option SearchText :=
  if c.searchContent && r.isIndexed then r.content.map (·.val) else none

/-- The snippets of the fields in which a query was found. -/
def preview (c : Criteria) (fields : List SearchText) : String :=
  Text.join previewSeparator
    ((fields.map fun t => c.query.snippet t.text c.context).filter fun s => s != "")

/-- The place of what was found, from whether the title and the content satisfy the query. -/
def placeOf (title content : Bool) : Option Place :=
  match title, content with
  | true, true => some .both
  | true, false => some .title
  | false, true => some .content
  | false, false => none

/-- The searched fields that satisfy the query. -/
def foundFields (c : Criteria) (r : Record) : List SearchText :=
  (r.title :: (c.searchedContent r).toList).filter c.query.accepts

/-- The verdict of a query that looks for a place. -/
def searchPlace (c : Criteria) (r : Record) : Verdict :=
  match placeOf (c.query.accepts r.title) ((c.searchedContent r).any c.query.accepts) with
  | some place => .found ⟨place, c.preview (c.foundFields r)⟩
  | none => .hidden

/-- The verdict of the query alone. -/
def search (c : Criteria) (r : Record) : Verdict :=
  let q := c.query
  let content := c.searchedContent r
  match q.mode with
  | .ids _ =>
    let excluded := q.isExcluded r.title.lowered || content.any fun t => q.isExcluded t.lowered
    if q.acceptsId r.id && !excluded then .shown else .hidden
  | .none | .all =>
    if q.accepts r.title || content.any q.accepts then .shown else .hidden
  | .contains _ | .any _ | .pattern _ => c.searchPlace r

/-- The verdict on a record. -/
def verdict (c : Criteria) (r : Record) : Verdict :=
  if c.admits r.updatedAt then c.search r else .hidden

/-- Note on a record what was found in it. -/
def mark (c : Criteria) (r : Record) : Record := r.setHit (c.verdict r).hit?

/-- The positions of the visible records of a list. -/
def visiblePositions (c : Criteria) (rs : List Record) : List Nat :=
  (rs.zipIdx.filter fun (r, _) => (c.verdict r).isVisible).map (·.2)

end Criteria

end ChatArchive
