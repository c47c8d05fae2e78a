import ChatArchive.Settings.Basic
import ChatArchive.Toml.Printer
import ChatArchive.Toml.Table

/-!
# Settings as text

Settings are written as a TOML document in which every setting is named.  A text that is read names
only those that differ from the defaults; what it names besides is passed over.
-/

namespace ChatArchive

open Toml (Document Entry Scalar)

namespace ServiceSettings

/-- The fields of the service under their names. -/
def entries (s : ServiceSettings) : List Entry :=
  [("base_url", .string s.baseUrl), ("entry_path", .string s.entryPath),
    ("ready_path_prefix", .string s.readyPrefix), ("api_base", .string s.apiBase),
    ("org_cookie", .string s.organizationCookie)]

end ServiceSettings

namespace OperationSettings

/-- The settings with their names. -/
def named (s : OperationSettings) : List (String × Nat) :=
  [("poll_interval_ms", s.pollMillis), ("settle_delay_ms", s.settleMillis),
    ("fetch_timeout_secs", s.fetchSeconds), ("index_timeout_secs", s.indexSeconds),
    ("export_timeout_secs", s.exportSeconds), ("delete_timeout_secs", s.deleteSeconds),
    ("page_ceiling", s.pageCeiling), ("index_batch_size", s.batchSize),
    ("index_batch_delay_ms", s.batchDelayMillis), ("max_content_chars", s.maxContentChars),
    ("export_item_delay_ms", s.exportDelayMillis), ("delete_item_delay_ms", s.deleteDelayMillis)]

/-- The fields of the operations, all of them numbers. -/
def entries (s : OperationSettings) : List Entry :=
  s.named.map fun (name, n) => (name, .integer n)

end OperationSettings

namespace CacheSettings

/-- The fields of the cache. -/
def entries (s : CacheSettings) : List Entry :=
  [("metadata_max_age_hours", .integer s.maxAgeHours), ("content_index_cap", .integer s.contentCap)]

end CacheSettings

namespace Settings

/-- The document that names every setting. -/
def document (s : Settings) : Document where
  entries := s.profileDir.toList.map fun dir => ("profile_dir", .string dir)
  tables :=
    [("service", s.service.entries), ("operations", s.operations.entries),
      ("cache", s.cache.entries)]

/-- Settings as text. -/
def toText (s : Settings) : String := s.document.toText

/-- The settings that a text names, and the defaults of the others. -/
def ofText? (text : String) : Option Settings := do
  let j ← Toml.read? text
  (Json.decodeValue decoder j).toOption

end Settings

end ChatArchive
