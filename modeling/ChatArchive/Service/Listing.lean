import ChatArchive.Calendar.Reader
import ChatArchive.Json.Decode
import ChatArchive.Word

/-!
# Listings

What the service tells about a conversation when it lists them.  The time may be missing or
unreadable; such an item counts as updated when it is merged.
-/

namespace ChatArchive

namespace Json

/-- The instant of a value: a count of milliseconds since 1970, or a text. -/
def timestamp? : Json → Option Timestamp
  | num (.int n) => if n ≤ Word.maxInt 64 then Timestamp.ofMillis? n else none
  | str s => Timestamp.ofText? s
  | _ => none

/-- An instant, which has to be a text. -/
def Decoder.timestamp : Decoder Timestamp
  | _, .str s =>
    match Calendar.readTimestamp s with
    | .ok t => .ok t
    | .error f => .error (.custom f.message)
  | _, r => .error (r.mismatch "an RFC 3339 formatted date and time string")

/-- An instant, or nothing where the value is none. -/
def Decoder.lenientTimestamp : Decoder (Option Timestamp) := Decoder.value.map timestamp?

end Json

/-- A listed conversation. -/
structure ListingItem where
  id : String
  name : Option String
  /-- Nothing if the time is missing or unreadable. -/
  updatedAt : Option Timestamp

namespace ListingItem

open Json

/-- An item of the list; a time that cannot be read counts as none. -/
def decoder : Decoder ListingItem :=
  Decoder.record "ListingItem"
    (.cons (.required "uuid" Decoder.string)
      (.cons (.optional "name" Decoder.string)
        (.cons (.defaulted "updated_at" Decoder.lenientTimestamp none) .nil)))
    fun (id, name, updatedAt, _) => ⟨id, name, updatedAt⟩

/-- The title: a missing name is empty. -/
def title (item : ListingItem) : String := item.name.getD ""

/-- The time, or the current one. -/
def timeAt (item : ListingItem) (now : Timestamp) : Timestamp := item.updatedAt.getD now

end ListingItem

end ChatArchive
