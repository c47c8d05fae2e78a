import ChatArchive.Filter.Verdict
import Std.Data.HashMap

/-!
# The record store

All known records, each identifier once, in the order in which they became known; an index that
gives the position of the record with an identifier; and the view, the positions of the records
that the current filter shows, in the current order.

Filtering and sorting change the view and the notes of what was found, nothing else.
-/

namespace ChatArchive

/-- The order of the view. -/
inductive SortOrder where
  | newest
  | oldest
  | title
  deriving Repr, DecidableEq

/-- May the first record stand before the second? -/
def SortOrder.le (o : SortOrder) (a b : Record) : Bool :=
  match o with
  | newest => b.updatedAt.notAfter a.updatedAt
  | oldest => a.updatedAt.notAfter b.updatedAt
  | title => a.title.lowered ≤ b.title.lowered

/-- Records with their index, a filter, an order and the view that they give. -/
structure Store where
  records : List Record
  /-- The index: the position of the record with an identifier. -/
  positions : Std.HashMap String Nat
  view : List Nat
  criteria : Criteria
  order : SortOrder

namespace Store

/-- A store without records. -/
def empty : Store := ⟨[], ∅, [], Criteria.empty, .newest⟩

instance : Inhabited Store := ⟨empty⟩

/-! ## Looking up -/

/-- The number of records. -/
def size (s : Store) : Nat := s.records.length

/-- Are there no records? -/
def isEmpty (s : Store) : Bool := s.records.isEmpty

/-- The record with an identifier, at the position that the index gives. -/
def get? (s : Store) (id : String) : Option Record := s.positions[id]?.bind fun i => s.records[i]?

/-- Does the index know an identifier? -/
def contains (s : Store) (id : String) : Bool := s.positions.contains id

/-- The visible records, in the order of the view. -/
def visible (s : Store) : List Record := s.view.filterMap fun i => s.records[i]?

/-! ## The view -/

/-- May the record at the first position stand before that at the second?  A position without a
record would come last. -/
def positionLe (s : Store) (i j : Nat) : Bool :=
  match s.records[i]?, s.records[j]? with
  | some a, some b => s.order.le a b
  | none, some _ => false
  | _, none => true

/-- Sort the view; what is equal in the order stays as it stands. -/
def sortView (s : Store) : Store := { s with view := s.view.mergeSort s.positionLe }

/-- Filter and sort anew. -/
def refresh (s : Store) : Store :=
  sortView { s with
    records := s.records.map s.criteria.mark
    view := s.criteria.visiblePositions s.records }

/-- Filter by other criteria. -/
def applyFilter (s : Store) (c : Criteria) : Store := refresh { s with criteria := c }

/-- Show all records. -/
def clearFilter (s : Store) : Store := s.applyFilter Criteria.empty

/-- Sort the view in another order, without filtering anew. -/
def setOrder (s : Store) (o : SortOrder) : Store := sortView { s with order := o }

/-! ## Single records -/

/-- Change the record with an identifier.  The view stays as it is. -/
def modify (s : Store) (id : String) (f : Record → Record) : Store :=
  match s.positions[id]? with
  | some i => { s with records := s.records.modify i f }
  | none => s

/-- Put a record in, in place of the one with its identifier or else at the end.  The view stays
as it is. -/
def insert (s : Store) (r : Record) : Store :=
  match s.positions[r.id]? with
  | some i => { s with records := s.records.set i r }
  | none =>
    { s with
      records := s.records ++ [r]
      positions := s.positions.insert r.id s.records.length }

/-- The index of some records, made anew. -/
def positionsOf (rs : List Record) : Std.HashMap String Nat :=
  rs.zipIdx.foldl (fun index (r, i) => index.insert r.id i) ∅

/-- A store of some records; of several with one identifier the last counts, in the place of the
first. -/
def ofRecords (rs : List Record) : Store := (rs.foldl insert empty).refresh

/-! ## Statistics -/

/-- How many records there are. -/
structure Stats where
  total : Nat
  visible : Nat
  selected : Nat
  indexed : Nat
  deriving Repr, DecidableEq

/-- The counts of the store, worked out anew. -/
def stats (s : Store) : Stats where
  total := s.records.length
  visible := s.view.length
  selected := s.records.countP (·.selected)
  indexed := s.records.countP (·.isIndexed)

/-- The latest time of a record. -/
def newestUpdate? (s : Store) : Option Timestamp :=
  s.records.foldl (fun best r =>
    match best with
    | some t => some (if r.updatedAt.before t then t else r.updatedAt)
    | none => some r.updatedAt) none

/-- The identifiers of the records without content, newest first. -/
def unindexedIds (s : Store) : List String :=
  ((s.records.filter fun r => !r.isIndexed).mergeSort SortOrder.newest.le).map Record.id

end Store

end ChatArchive
