import ChatArchive.Service.Listing

/-!
# Walking through a listing

The listing comes in pages.  A walk takes them one after the other, keeps the first item of every
identifier, and stops by the first of these rules that holds:

* as many pages were taken as may be;
* the page held nothing new;
* the page was shorter than the first one;
* the page named no next one;
* the next page is the page itself or one that was named before.
-/

namespace ChatArchive

open Json

/-- A page of a listing. -/
structure ListingPage where
  cursor : Option String
  next : Option String
  items : List ListingItem

/-- A page of the list, of which everything may be left out. -/
def ListingPage.decoder : Decoder ListingPage :=
  Decoder.record "ListingPage"
    (.cons (.optional "cursor" Decoder.string)
      (.cons (.optional "next_cursor" Decoder.string)
        (.cons (.defaulted "items" ListingItem.decoder.list []) .nil)))
    fun (cursor, next, items, _) => ⟨cursor, next, items⟩

/-- Why a walk stopped. -/
inductive WalkStop where
  | nothingNew
  | shortPage
  | repeatedCursor
  | endOfListing
  | ceiling
  deriving Repr, DecidableEq

/-- A walk after some pages. -/
structure Walk where
  /-- How many pages may be taken. -/
  ceiling : Nat
  pages : Nat
  firstSize : Option Nat
  /-- The next pages that were named. -/
  cursors : List String
  /-- The items, each identifier once. -/
  items : List ListingItem
  stop : Option WalkStop

namespace Walk

/-- A walk before the first page. -/
def start (ceiling : Nat) : Walk := ⟨ceiling, 0, none, [], [], none⟩

/-- Keep an item unless its identifier is known. -/
def keep (items : List ListingItem) (item : ListingItem) : List ListingItem :=
  if items.any fun i => i.id == item.id then items else items ++ [item]

/-- Why a walk stops after a page; `items` are those with the page. -/
def stopAfter (w : Walk) (page : ListingPage) (items : List ListingItem) : Option WalkStop :=
  if items.length = w.items.length then some .nothingNew
  else if w.firstSize.any fun n => page.items.length < n then some .shortPage
  else match page.next with
    | none => some .endOfListing
    | some next =>
      if page.cursor = some next ∨ next ∈ w.cursors then some .repeatedCursor
      else if w.ceiling ≤ w.pages + 1 then some .ceiling
      else none

/-- Take a page.  A walk that stopped takes no more. -/
def accept (w : Walk) (page : ListingPage) : Walk :=
  if w.stop.isSome then w
  else if w.ceiling ≤ w.pages then { w with stop := some .ceiling }
  else
    let items := page.items.foldl keep w.items
    { w with
      pages := w.pages + 1
      firstSize := some (w.firstSize.getD page.items.length)
      cursors := page.next.toList ++ w.cursors
      items := items
      stop := w.stopAfter page items }

/-- Take pages one after the other. -/
def acceptAll (w : Walk) (pages : List ListingPage) : Walk := pages.foldl accept w

end Walk

end ChatArchive
