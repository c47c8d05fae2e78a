import ChatArchive.Calendar.Reader
import ChatArchive.Query.Matching
import ChatArchive.Query.Reader

/-!
# Filter criteria

A query together with bounds on the time of the records.  Both bounds belong to the range.
-/

namespace ChatArchive

/-- What decides which records are visible. -/
structure Criteria where
  query : Query
  /-- The earliest time. -/
  after : Option Timestamp
  /-- The latest time. -/
  before : Option Timestamp
  /-- Is fetched content searched, too? -/
  searchContent : Bool
  /-- The characters of context in previews. -/
  context : Nat

namespace Criteria

/-- A query without bounds that searches titles. -/
def ofQuery (q : Query) : Criteria := ⟨q, none, none, false, Query.defaultContext⟩

/-- Criteria that admit every record. -/
def empty : Criteria := ofQuery Query.empty

instance : Inhabited Criteria := ⟨empty⟩

/-- Admit records from the start of a day on. -/
def afterDate (c : Criteria) (d : Date) : Criteria := { c with after := some (Timestamp.startOf d) }

/-- Admit records to the end of a day. -/
def beforeDate (c : Criteria) (d : Date) : Criteria := { c with before := Timestamp.endOf? d }

/-- Search content, or not. -/
def withContent (c : Criteria) (on : Bool) : Criteria := { c with searchContent := on }

/-- Is every record admitted? -/
def isEmpty (c : Criteria) : Bool := c.query.isEmpty && c.after.isNone && c.before.isNone

/-- Does a time lie within the bounds? -/
def admits (c : Criteria) (t : Timestamp) : Bool :=
  c.after.all (fun a => !t.before a) && c.before.all (fun b => !b.before t)

/-! ## Bounds given as text -/

/-- The criteria of a query and the texts of its bounds.  The first bound that is no date is the
error. -/
def ofTexts (query : String) (after before : Option String) : Except String Criteria := do
  let withAfter ← bounded (ofQuery (Query.ofText query)) after afterDate
  bounded withAfter before beforeDate
where
  /-- Add a bound if there is one. -/
  bounded (c : Criteria) (text : Option String) (add : Criteria → Date → Criteria) :
      Except String Criteria :=
    match text with
    | none => .ok c
    | some s =>
      match Date.ofText? s with
      | some d => .ok (add c d)
      | none => .error s

end Criteria

end ChatArchive
