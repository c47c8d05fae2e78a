import ChatArchive.Export.Document
import ChatArchive.Operation.Task

/-!
# Exporting

A full export has the page fetch conversations one after the other and writes a document with an
entry for each.  An export of metadata needs no page.
-/

namespace ChatArchive.Operation

open Json
open Files (Path)

/-- What was fetched of one conversation. -/
structure ExportedItem where
  id : String
  detail : Option Json
  error : Option String

/-- What came of an export. -/
structure ExportSummary where
  path : Path
  exported : Nat
  failed : Nat
  deriving Repr, DecidableEq

namespace Export

/-- The work of the page. -/
def body : List String :=
  ["",
   "        const items = [];",
   "        for (let i = 0; i < CONFIG.ids.length; i++) \x7b",
   "          if (i > 0) await sleep(CONFIG.itemDelayMs);",
   "          const id = CONFIG.ids[i];",
   "          try \x7b",
   "            const detail = await api('GET', '/chat_conversations/' + encodeURIComponent(id) + '?tree=true&rendering_mode=messages');",
   "            items.push(\x7b id, detail \x7d);",
   "          \x7d catch (e) \x7b",
   "            items.push(\x7b id, error: String((e && e.message) || e) \x7d);",
   "          \x7d",
   "          tick();",
   "        \x7d",
   "        return \x7b items \x7d;",
   ""]

/-- The conversation and the error of an item may both be left out. -/
def itemDecoder : Decoder ExportedItem :=
  Decoder.record "ExportedItem"
    (.cons (.required "id" Decoder.string)
      (.cons (.optional "detail" Decoder.value)
        (.cons (.optional "error" Decoder.string) .nil)))
    fun (id, detail, error, _) => ⟨id, detail, error⟩

/-- The items that were handed over. -/
def decoder : Decoder (List ExportedItem) :=
  Decoder.record "ExportPayload"
    (.cons (.defaulted "items" itemDecoder.list []) .nil) fun (items, _) => items

/-- The entry of an item.  An error comes before what else there is. -/
def entryOf (item : ExportedItem) : ExportEntry :=
  match item.error, item.detail with
  | some error, _ => .failed item.id error
  | none, none => .failed item.id "empty response"
  | none, some detail =>
    match decodeValue ConversationDetail.decoder detail with
    | .ok d => .full (.ofDetail d)
    | .error f => .failed item.id ("malformed conversation: " ++ f.message)

/-- The reason of a failure to write. -/
def unwritable : Failure := .output "the file cannot be replaced"

/-- Write a document. -/
def writeDocument (files : Files) (target : Path) (d : ExportDocument) :
    Files × Except Failure ExportSummary :=
  let failed := d.entries.countP ExportEntry.isFailed
  match files.writeJson target d.toNode with
  | (files, true) => (files, .ok ⟨target, d.entries.length - failed, failed⟩)
  | (files, false) => (files, .error unwritable)

/-- Merge a result: the store stays as it is. -/
def merge (target : Path) (clock : Clock) (r : ScriptResult) (w : Workspace) :
    Workspace × Except Failure ExportSummary :=
  match r.dataAs decoder with
  | .error f => (w, .error f)
  | .ok items =>
    let d := ExportDocument.ofEntries (clock 0) .full (items.map entryOf)
    let (files, outcome) := writeDocument w.files target d
    ({ w with files := files }, outcome)

/-- The task for some conversations. -/
def task (settings : OperationSettings) (ids : List String) (target : Path) :
    Task ExportSummary where
  title := "Exporting conversations"
  initialStatus := "Exporting " ++ toString ids.length ++ " conversations"
  mode := .determinate
  total := some ids.length
  timeout := .ofSeconds settings.exportSeconds
  script := fun context =>
    .ok (Task.scriptOf context
      [Task.idsParam ids, ("itemDelayMs", .ofNat settings.exportDelayMillis)] body)
  merge := merge target
  progressText := Task.countText "Exported" ids.length

/-! ## Metadata -/

/-- Write what the listing tells about those of some conversations that are known. -/
def metadata (now : Timestamp) (store : Store) (ids : List String) (files : Files)
    (target : Path) : Files × Except Failure ExportSummary :=
  let entries := (ids.filterMap store.get?).map fun r => .listed (.ofRecord r)
  writeDocument files target (ExportDocument.ofEntries now .metadata entries)

end Export

end ChatArchive.Operation
