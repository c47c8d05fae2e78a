import ChatArchive.Calendar.Printer
import ChatArchive.Record.Basic
import ChatArchive.Service.Detail
import ChatArchive.Service.Listing

/-!
# Export documents

The file that an export writes: some facts about the export, then an entry for every conversation.
An entry is a conversation in full, what the listing tells about it, or the reason why it is
missing.  Nothing in an entry says which of the three it is: its fields do.
-/

namespace ChatArchive

open Json

/-! ## Conversations in full -/

/-- A message as it is exported. -/
structure ExportMessage where
  id : Option String
  sender : Option String
  text : String
  createdAt : Option String
  attachments : List Json

/-- A conversation as it is exported. -/
structure FullConversation where
  id : String
  name : String
  createdAt : Option String
  updatedAt : Option String
  model : Option String
  messages : List ExportMessage

namespace ExportMessage

/-- A message with its full text. -/
def ofMessage (m : ChatMessage) : ExportMessage :=
  ⟨m.id, m.sender, m.fullText, m.createdAt, m.attachments⟩

/-- A message of an exported file; the names that may be null have to be there. -/
def decoder : Decoder ExportMessage :=
  Decoder.record "ExportMessage"
    (.cons (.nullable "uuid" Decoder.string)
      (.cons (.nullable "sender" Decoder.string)
        (.cons (.required "text" Decoder.string)
          (.cons (.nullable "created_at" Decoder.string)
            (.cons (.required "attachments" Decoder.value.list) .nil)))))
    fun (id, sender, text, createdAt, attachments, _) =>
      ⟨id, sender, text, createdAt, attachments⟩

/-- A message as it is written. -/
def toNode (m : ExportMessage) : Node :=
  .obj [("uuid", .ofOption .str m.id), ("sender", .ofOption .str m.sender), ("text", .str m.text),
    ("created_at", .ofOption .str m.createdAt),
    ("attachments", .arr (m.attachments.map Json.toNode))]

end ExportMessage

namespace FullConversation

/-- A conversation with the full texts of its messages; a missing name is empty. -/
def ofDetail (d : ConversationDetail) : FullConversation :=
  ⟨d.id, d.name.getD "", d.createdAt, d.updatedAt, d.model, d.messages.map .ofMessage⟩

/-- A whole conversation of an exported file. -/
def decoder : Decoder FullConversation :=
  Decoder.record "FullConversation"
    (.cons (.required "id" Decoder.string)
      (.cons (.required "name" Decoder.string)
        (.cons (.nullable "created_at" Decoder.string)
          (.cons (.nullable "updated_at" Decoder.string)
            (.cons (.nullable "model" Decoder.string)
              (.cons (.required "chat_messages" ExportMessage.decoder.list) .nil))))))
    fun (id, name, createdAt, updatedAt, model, messages, _) =>
      ⟨id, name, createdAt, updatedAt, model, messages⟩

/-- A whole conversation as it is written. -/
def toNode (c : FullConversation) : Node :=
  .obj [("id", .str c.id), ("name", .str c.name), ("created_at", .ofOption .str c.createdAt),
    ("updated_at", .ofOption .str c.updatedAt), ("model", .ofOption .str c.model),
    ("chat_messages", .arr (c.messages.map (·.toNode)))]

end FullConversation

/-! ## Entries -/

/-- What the listing tells about a conversation. -/
structure ListedConversation where
  id : String
  name : String
  updatedAt : Timestamp

namespace ListedConversation

/-- What an export of the list says of a record. -/
def ofRecord (r : Record) : ListedConversation := ⟨r.id, r.title.text, r.updatedAt⟩

/-- A conversation of an export of the list. -/
def decoder : Decoder ListedConversation :=
  Decoder.record "MetadataConversation"
    (.cons (.required "id" Decoder.string)
      (.cons (.required "name" Decoder.string)
        (.cons (.required "updated_at" Decoder.timestamp) .nil)))
    fun (id, name, updatedAt, _) => ⟨id, name, updatedAt⟩

/-- It is written with its time in full. -/
def toNode (c : ListedConversation) : Node :=
  .obj [("id", .str c.id), ("name", .str c.name), ("updated_at", .str c.updatedAt.toText)]

end ListedConversation

/-- One conversation of an export. -/
inductive ExportEntry where
  | full (c : FullConversation)
  | listed (c : ListedConversation)
  | failed (id error : String)

namespace ExportEntry

/-- Is this a conversation that is missing? -/
def isFailed : ExportEntry → Bool
  | failed _ _ => true
  | full _ | listed _ => false

/-- An identifier and an error; only an object will do. -/
def failedDecoder : Decoder ExportEntry
  | o, .obj ms stop =>
    (Decoder.rowOfObject
      (.cons (.required "id" Decoder.string) (.cons (.required "error" Decoder.string) .nil))
      o ms stop).map fun (id, error, _) => failed id error
  | _, r => .error (r.mismatch "struct variant ExportEntry::Failed")

/-- The first kind of entry whose fields are there. -/
def decoder : Decoder ExportEntry := fun o r => do
  let _ ← r.toValue o
  match FullConversation.decoder .value r, ListedConversation.decoder .value r,
    failedDecoder .value r with
  | .ok c, _, _ => .ok (full c)
  | _, .ok c, _ => .ok (listed c)
  | _, _, .ok e => .ok e
  | _, _, _ => .error (.custom "data did not match any variant of untagged enum ExportEntry")

/-- Each kind of entry has members of its own, and an entry is read by them. -/
def toNode : ExportEntry → Node
  | full c => c.toNode
  | listed c => c.toNode
  | failed id error => .obj [("id", .str id), ("error", .str error)]

end ExportEntry

/-! ## Documents -/

/-- What an export holds of each conversation. -/
inductive ExportKind where
  | full
  | metadata
  deriving Repr, DecidableEq

namespace ExportKind

/-- The name of the kind in a file. -/
def name : ExportKind → String
  | full => "full"
  | metadata => "metadata"

/-- A kind is read by its name. -/
def decoder : Decoder ExportKind := Decoder.oneOf [(full.name, full), (metadata.name, metadata)]

end ExportKind

/-- An export. -/
structure ExportDocument where
  exportedAt : Timestamp
  version : String
  kind : ExportKind
  total : Nat
  entries : List ExportEntry

namespace ExportDocument

/-- The version of the format that is written. -/
def currentVersion : String := "1.0"

/-- An export of some entries. -/
def ofEntries (now : Timestamp) (kind : ExportKind) (entries : List ExportEntry) :
    ExportDocument :=
  ⟨now, currentVersion, kind, entries.length, entries⟩

/-- A document; its total is not compared with its entries. -/
def decoder : Decoder ExportDocument :=
  Decoder.record "ExportDocument"
    (.cons (.required "export_date" Decoder.timestamp)
      (.cons (.required "export_version" Decoder.string)
        (.cons (.required "export_type" ExportKind.decoder)
          (.cons (.required "total_conversations" Decoder.count)
            (.cons (.required "conversations" ExportEntry.decoder.list) .nil)))))
    fun (exportedAt, version, kind, total, entries, _) =>
      ⟨exportedAt, version, kind, total, entries⟩

/-- A document as it is written. -/
def toNode (d : ExportDocument) : Node :=
  .obj [("export_date", .str d.exportedAt.toText), ("export_version", .str d.version),
    ("export_type", .str d.kind.name), ("total_conversations", .ofNat d.total),
    ("conversations", .arr (d.entries.map (·.toNode)))]

end ExportDocument

end ChatArchive
