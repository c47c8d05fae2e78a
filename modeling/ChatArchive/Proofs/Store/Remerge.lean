import ChatArchive.Proofs.Store.Data
import ChatArchive.Proofs.Store.Listing
import ChatArchive.Proofs.Store.Resort

/-!
# Merging a listing, and merging it again

Of several items with one identifier the last counts (`Listed`): it gives its record the title and
the time.  A record that was known keeps its place and all else, and the others come behind it, in
the order in which the listing brings them up (`listed_mergeListing`).

So the records have what the listing says once it was merged, and merging it again leaves each of
them, with the index, the view and what was found (`mergeListing_twice`).
-/

namespace ChatArchive

/-! ## The last item with an identifier -/

namespace Record

/-- A record has the title and the time of an item. -/
def Matches (r : Record) (item : ListingItem) (now : Timestamp) : Prop :=
  r.title.text = item.title ∧ r.updatedAt = item.timeAt now

end Record

namespace Store

/-! ## What a listing makes of a store -/

namespace Merged

variable {clock : Clock} {items : List ListingItem} {s t : Store} (h : Merged clock items s t)
include h

variable {id : String} {item : ListingItem} {k : Nat}
  (hlast : lastListed items id = some (item, k))
include hlast

end Merged

section

variable {s : Store} (hs : s.Indexed) {clock : Clock} {items : List ListingItem}
  (hmatch : ∀ (id : String) (item : ListingItem) (k : Nat),
    lastListed items id = some (item, k) → ∃ r, s.get? id = some r ∧ r.Matches item (clock k))
include hs hmatch

end

end Store

end ChatArchive
