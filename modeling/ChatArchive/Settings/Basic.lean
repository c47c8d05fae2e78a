import ChatArchive.Json.Decode

/-!
# Settings

Where the service is, how operations are timed, and how long snapshots are kept.  Every setting
has a default, so that a file has to name only those that differ.
-/

namespace ChatArchive

open Json

/-- Where the conversation service is. -/
structure ServiceSettings where
  baseUrl : String
  entryPath : String
  /-- The page is ready once its path starts with this. -/
  readyPrefix : String
  apiBase : String
  /-- The cookie that names the organization. -/
  organizationCookie : String
  deriving Repr, DecidableEq

/-- Times, batches and limits of the operations. -/
structure OperationSettings where
  pollMillis : Nat
  settleMillis : Nat
  fetchSeconds : Nat
  indexSeconds : Nat
  exportSeconds : Nat
  deleteSeconds : Nat
  pageCeiling : Nat
  batchSize : Nat
  batchDelayMillis : Nat
  maxContentChars : Nat
  exportDelayMillis : Nat
  deleteDelayMillis : Nat
  deriving Repr, DecidableEq

/-- How long and how much of it the snapshots keep. -/
structure CacheSettings where
  maxAgeHours : Int
  contentCap : Nat
  deriving Repr, DecidableEq

/-- All settings. -/
structure Settings where
  /-- The folder of the browser profile, if it is not the default one. -/
  profileDir : Option String
  service : ServiceSettings
  operations : OperationSettings
  cache : CacheSettings
  deriving Repr, DecidableEq

/-! ## Defaults -/

/-- The service as it is if nothing else is said. -/
def ServiceSettings.default : ServiceSettings where
  baseUrl := "https://claude.ai"
  entryPath := "/recents"
  readyPrefix := "/recents"
  apiBase := "https://claude.ai/api"
  organizationCookie := "lastActiveOrg"

/-- The operations wait, batch and give up by these numbers if nothing else is said. -/
def OperationSettings.default : OperationSettings where
  pollMillis := 250
  settleMillis := 1500
  fetchSeconds := 300
  indexSeconds := 1800
  exportSeconds := 1800
  deleteSeconds := 900
  pageCeiling := 200
  batchSize := 8
  batchDelayMillis := 500
  maxContentChars := 50000
  exportDelayMillis := 300
  deleteDelayMillis := 300

/-- Snapshots of the list are current for a day, and contents are kept up to a cap. -/
def CacheSettings.default : CacheSettings := ⟨24, 2000⟩

/-- The settings without a file. -/
def Settings.default : Settings := ⟨none, .default, .default, .default⟩

instance : Inhabited ServiceSettings := ⟨.default⟩

instance : Inhabited OperationSettings := ⟨.default⟩

instance : Inhabited CacheSettings := ⟨.default⟩

instance : Inhabited Settings := ⟨.default⟩

/-- The time between two polls: at least ten milliseconds. -/
def OperationSettings.pollInterval (s : OperationSettings) : Nat := max s.pollMillis 10

/-! ## Decoding -/

namespace ServiceSettings

/-- The settings of the service; a field that is left out has its default. -/
def decoder : Decoder ServiceSettings :=
  let d := default
  Decoder.record "ServiceConfig"
    (.cons (.defaulted "base_url" Decoder.string d.baseUrl)
      (.cons (.defaulted "entry_path" Decoder.string d.entryPath)
        (.cons (.defaulted "ready_path_prefix" Decoder.string d.readyPrefix)
          (.cons (.defaulted "api_base" Decoder.string d.apiBase)
            (.cons (.defaulted "org_cookie" Decoder.string d.organizationCookie) .nil)))))
    fun (baseUrl, entryPath, readyPrefix, apiBase, organizationCookie, _) =>
      ⟨baseUrl, entryPath, readyPrefix, apiBase, organizationCookie⟩

end ServiceSettings

namespace OperationSettings

/-- The settings of the operations, with their defaults. -/
def decoder : Decoder OperationSettings :=
  let d := default
  Decoder.record "OperationsConfig"
    (.cons (.defaulted "poll_interval_ms" Decoder.nat64 d.pollMillis)
      (.cons (.defaulted "settle_delay_ms" Decoder.nat64 d.settleMillis)
        (.cons (.defaulted "fetch_timeout_secs" Decoder.nat64 d.fetchSeconds)
          (.cons (.defaulted "index_timeout_secs" Decoder.nat64 d.indexSeconds)
            (.cons (.defaulted "export_timeout_secs" Decoder.nat64 d.exportSeconds)
              (.cons (.defaulted "delete_timeout_secs" Decoder.nat64 d.deleteSeconds)
                (.cons (.defaulted "page_ceiling" Decoder.count d.pageCeiling)
                  (.cons (.defaulted "index_batch_size" Decoder.count d.batchSize)
                    (.cons (.defaulted "index_batch_delay_ms" Decoder.nat64 d.batchDelayMillis)
                      (.cons (.defaulted "max_content_chars" Decoder.count d.maxContentChars)
                        (.cons (.defaulted "export_item_delay_ms" Decoder.nat64
                            d.exportDelayMillis)
                          (.cons (.defaulted "delete_item_delay_ms" Decoder.nat64
                            d.deleteDelayMillis) .nil))))))))))))
    fun (pollMillis, settleMillis, fetchSeconds, indexSeconds, exportSeconds, deleteSeconds,
        pageCeiling, batchSize, batchDelayMillis, maxContentChars, exportDelayMillis,
        deleteDelayMillis, _) =>
      ⟨pollMillis, settleMillis, fetchSeconds, indexSeconds, exportSeconds, deleteSeconds,
        pageCeiling, batchSize, batchDelayMillis, maxContentChars, exportDelayMillis,
        deleteDelayMillis⟩

end OperationSettings

namespace CacheSettings

/-- The settings of the cache, with their defaults. -/
def decoder : Decoder CacheSettings :=
  let d := default
  Decoder.record "CacheConfig"
    (.cons (.defaulted "metadata_max_age_hours" Decoder.int64 d.maxAgeHours)
      (.cons (.defaulted "content_index_cap" Decoder.count d.contentCap) .nil))
    fun (maxAgeHours, contentCap, _) => ⟨maxAgeHours, contentCap⟩

end CacheSettings

namespace Settings

/-- A path in the file system. -/
def pathDecoder : Decoder String
  | _, .str s => .ok s
  | _, r => .error (r.mismatch "path string")

/-- All settings; a section that is left out has the defaults of its fields. -/
def decoder : Decoder Settings :=
  let d := default
  Decoder.record "AppConfig"
    (.cons (.defaulted "profile_dir" pathDecoder.option d.profileDir)
      (.cons (.defaulted "service" ServiceSettings.decoder d.service)
        (.cons (.defaulted "operations" OperationSettings.decoder d.operations)
          (.cons (.defaulted "cache" CacheSettings.decoder d.cache) .nil))))
    fun (profileDir, service, operations, cache, _) => ⟨profileDir, service, operations, cache⟩

end Settings

end ChatArchive
