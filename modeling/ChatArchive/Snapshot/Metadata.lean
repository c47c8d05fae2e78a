import ChatArchive.Calendar.Printer
import ChatArchive.Record.Basic
import ChatArchive.Service.Listing
import ChatArchive.Word

/-!
# Metadata snapshots

What the listing told about every record, and when it was saved.  A snapshot is kept for some
hours; one that was saved in the future is fresh.
-/

namespace ChatArchive

open Json

namespace Snapshot

/-- The version of the format. -/
def version : Nat := 1

/-- The hours of an age that can be measured: their milliseconds have 64 bits. -/
def isMeasurable (hours : Int) : Bool :=
  (hours * 3600000).natAbs ≤ Word.maxNat 63

end Snapshot

/-- What the listing told about one record. -/
structure CachedRecord where
  id : String
  title : String
  updatedAt : Timestamp

namespace CachedRecord

/-- What is kept of a record. -/
def ofRecord (r : Record) : CachedRecord := ⟨r.id, r.title.text, r.updatedAt⟩

/-- The record of an entry, not selected and without a content. -/
def toRecord (c : CachedRecord) : Record := Record.ofListing c.id c.title c.updatedAt

/-- An entry of metadata. -/
def decoder : Decoder CachedRecord :=
  Decoder.record "CachedRecord"
    (.cons (.required "id" Decoder.string)
      (.cons (.required "title" Decoder.string)
        (.cons (.required "updated_at" Decoder.timestamp) .nil)))
    fun (id, title, updatedAt, _) => ⟨id, title, updatedAt⟩

/-- An entry as it is written. -/
def toNode (c : CachedRecord) : Node :=
  .obj [("id", .str c.id), ("title", .str c.title), ("updated_at", .str c.updatedAt.toText)]

end CachedRecord

/-- What the listing told about all records. -/
structure MetadataSnapshot where
  version : Nat
  savedAt : Timestamp
  records : List CachedRecord

namespace MetadataSnapshot

/-- A snapshot of some records. -/
def ofRecords (now : Timestamp) (rs : List Record) : MetadataSnapshot :=
  ⟨Snapshot.version, now, rs.map .ofRecord⟩

/-- Is a snapshot older than some hours?  Nothing if these cannot be measured. -/
def isExpired? (s : MetadataSnapshot) (maxAgeHours : Int) (now : Timestamp) : Option Bool :=
  if Snapshot.isMeasurable maxAgeHours then
    some (maxAgeHours * 3600 * Calendar.nanosPerSecond < now.since s.savedAt)
  else none

/-- The records, neither selected nor indexed. -/
def toRecords (s : MetadataSnapshot) : List Record := s.records.map (·.toRecord)

/-- A snapshot of metadata; its version and its age are checked when it is loaded. -/
def decoder : Decoder MetadataSnapshot :=
  Decoder.record "MetadataSnapshot"
    (.cons (.required "version" Decoder.nat32)
      (.cons (.required "saved_at" Decoder.timestamp)
        (.cons (.required "records" CachedRecord.decoder.list) .nil)))
    fun (version, savedAt, records, _) => ⟨version, savedAt, records⟩

/-- A snapshot as it is written. -/
def toNode (s : MetadataSnapshot) : Node :=
  .obj [("version", .ofNat s.version), ("saved_at", .str s.savedAt.toText),
    ("records", .arr (s.records.map (·.toNode)))]

end MetadataSnapshot

end ChatArchive
