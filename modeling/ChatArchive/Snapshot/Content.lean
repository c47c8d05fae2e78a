import ChatArchive.Snapshot.Metadata
import ChatArchive.Store.Basic

/-!
# Content snapshots

The content of indexed records, newest first, and of no more of them than a cap allows.
-/

namespace ChatArchive

open Json

/-- The content of one record. -/
structure ContentEntry where
  id : String
  updatedAt : Timestamp
  content : String

namespace ContentEntry

/-- The entry of a record, if it is indexed. -/
def ofRecord? (r : Record) : Option ContentEntry :=
  r.contentText?.map fun text => ⟨r.id, r.updatedAt, text⟩

/-- May the first entry stand before the second?  The newer one stands first. -/
def le (a b : ContentEntry) : Bool := b.updatedAt.notAfter a.updatedAt

/-- An entry of contents. -/
def decoder : Decoder ContentEntry :=
  Decoder.record "ContentEntry"
    (.cons (.required "id" Decoder.string)
      (.cons (.required "updated_at" Decoder.timestamp)
        (.cons (.required "content" Decoder.string) .nil)))
    fun (id, updatedAt, content, _) => ⟨id, updatedAt, content⟩

/-- An entry as it is written. -/
def toNode (e : ContentEntry) : Node :=
  .obj [("id", .str e.id), ("updated_at", .str e.updatedAt.toText), ("content", .str e.content)]

end ContentEntry

/-- The content of some records. -/
structure ContentSnapshot where
  version : Nat
  entries : List ContentEntry

namespace ContentSnapshot

/-- The content of the newest indexed records, at most `cap` of them. -/
def ofRecords (cap : Nat) (rs : List Record) : ContentSnapshot :=
  ⟨Snapshot.version, ((rs.filterMap ContentEntry.ofRecord?).mergeSort ContentEntry.le).take cap⟩

/-- A snapshot of contents; the version is checked when it is loaded. -/
def decoder : Decoder ContentSnapshot :=
  Decoder.record "ContentSnapshot"
    (.cons (.required "version" Decoder.nat32)
      (.cons (.required "entries" ContentEntry.decoder.list) .nil))
    fun (version, entries, _) => ⟨version, entries⟩

/-- A snapshot as it is written. -/
def toNode (s : ContentSnapshot) : Node :=
  .obj [("version", .ofNat s.version), ("entries", .arr (s.entries.map (·.toNode)))]

end ContentSnapshot

end ChatArchive
