import ChatArchive.Service.Listing
import ChatArchive.Store.Basic

/-!
# Merging

New knowledge about records: listings, contents and deletions.  Each merge refreshes the view at
its end.
-/

namespace ChatArchive.Store

/-! ## Listings -/

/-- How many items of a listing were new and how many known. -/
structure ListingCounts where
  added : Nat
  updated : Nat
  deriving Repr, DecidableEq

/-- Merge one item: a known record gets its title and time, a new one is put at the end. -/
def mergeItem (now : Timestamp) (s : Store) (item : ListingItem) : Store :=
  if s.contains item.id then
    s.modify item.id fun r => (r.setTitle item.title).setUpdatedAt (item.timeAt now)
  else s.insert (Record.ofListing item.id item.title (item.timeAt now))

/-- Merge items one after the other; the clock is read once for each, from number `reading` on. -/
def mergeItems (clock : Clock) (reading : Nat) (s : Store) (counts : ListingCounts) :
    List ListingItem → Store × ListingCounts
  | [] => (s, counts)
  | item :: items =>
    let next := if s.contains item.id then { counts with updated := counts.updated + 1 }
      else { counts with added := counts.added + 1 }
    mergeItems clock (reading + 1) (s.mergeItem (clock reading) item) next items

/-- Merge a listing. -/
def mergeListing (s : Store) (clock : Clock) (items : List ListingItem) : Store × ListingCounts :=
  let (merged, counts) := s.mergeItems clock 0 ⟨0, 0⟩ items
  (merged.refresh, counts)

/-! ## Contents -/

/-- Merge contents one after the other, and count those that are not empty and belong to a known
record. -/
def mergeContents (s : Store) (count : Nat) : List (String × String) → Store × Nat
  | [] => (s, count)
  | (id, content) :: rest =>
    if content ≠ "" ∧ s.contains id then
      mergeContents (s.modify id (·.setContent content)) (count + 1) rest
    else mergeContents s count rest

/-- Merge contents by identifier. -/
def mergeContent (s : Store) (contents : List (String × String)) : Store × Nat :=
  let (merged, count) := s.mergeContents 0 contents
  (merged.refresh, count)

/-! ## Deletions -/

/-- Drop the records with some identifiers; gives how many there were. -/
def removeIds (s : Store) (ids : List String) : Store × Nat :=
  let kept := s.records.filter fun r => !ids.contains r.id
  (refresh { s with records := kept, positions := positionsOf kept },
    s.records.length - kept.length)

end ChatArchive.Store
