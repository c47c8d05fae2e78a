import ChatArchive.Operation.Task

/-!
# Indexing contents

The page fetches conversations in batches and hands over the text of each, cut to a limit.  A
conversation that cannot be fetched has an error instead.
-/

namespace ChatArchive.Operation

open Json

/-- The text of one conversation. -/
structure IndexedItem where
  id : String
  content : String
  error : Option String

/-- What came of indexing. -/
structure IndexSummary where
  requested : Nat
  indexed : Nat
  empty : Nat
  failed : Nat
  deriving Repr, DecidableEq

namespace Index

/-- The work of the page. -/
def body : List String :=
  ["",
   "        const messageText = (m) => \x7b",
   "          if (m && m.text) return m.text;",
   "          return ((m && m.content) || [])",
   "            .filter((b) => b && (!b.type || b.type === 'text') && b.text)",
   "            .map((b) => b.text)",
   "            .join('\\n');",
   "        \x7d;",
   "        const items = [];",
   "        for (let i = 0; i < CONFIG.ids.length; i += CONFIG.batchSize) \x7b",
   "          if (i > 0) await sleep(CONFIG.batchDelayMs);",
   "          const batch = CONFIG.ids.slice(i, i + CONFIG.batchSize);",
   "          const results = await Promise.all(batch.map(async (id) => \x7b",
   "            try \x7b",
   "              const detail = await api('GET', '/chat_conversations/' + encodeURIComponent(id) + '?tree=true');",
   "              const text = ((detail && detail.chat_messages) || []).map(messageText).filter(Boolean).join('\\n');",
   "              return \x7b id, content: text.slice(0, CONFIG.maxContentChars) \x7d;",
   "            \x7d catch (e) \x7b",
   "              return \x7b id, content: '', error: String((e && e.message) || e) \x7d;",
   "            \x7d finally \x7b",
   "              tick();",
   "            \x7d",
   "          \x7d));",
   "          items.push(...results);",
   "        \x7d",
   "        return \x7b items \x7d;",
   ""]

/-- An item without a content has the empty one. -/
def itemDecoder : Decoder IndexedItem :=
  Decoder.record "IndexedItem"
    (.cons (.required "id" Decoder.string)
      (.cons (.defaulted "content" Decoder.string "")
        (.cons (.optional "error" Decoder.string) .nil)))
    fun (id, content, error, _) => ⟨id, content, error⟩

/-- The items that were handed over. -/
def decoder : Decoder (List IndexedItem) :=
  Decoder.record "IndexPayload"
    (.cons (.defaulted "items" itemDecoder.list []) .nil) fun (items, _) => items

/-- Did fetching the conversation fail? -/
def isFailed (item : IndexedItem) : Bool := item.error.isSome

/-- Was a conversation without text fetched? -/
def isEmpty (item : IndexedItem) : Bool := item.error.isNone && item.content == ""

/-- The content of an item, cut to a limit, if it has any. -/
def content? (limit : Nat) (item : IndexedItem) : Option (String × String) :=
  if isFailed item || isEmpty item then none
  else some (item.id, String.ofList (item.content.toList.take limit))

/-- Merge items. -/
def mergeItems (requested limit : Nat) (items : List IndexedItem) (store : Store) :
    Store × IndexSummary :=
  let (merged, indexed) := store.mergeContent (items.filterMap (content? limit))
  (merged, ⟨requested, indexed, items.countP isEmpty, items.countP isFailed⟩)

/-- Merge a result. -/
def merge (requested limit : Nat) (_clock : Clock) (r : ScriptResult) (w : Workspace) :
    Workspace × Except Failure IndexSummary :=
  match r.dataAs decoder with
  | .error f => (w, .error f)
  | .ok items =>
    let (store, summary) := mergeItems requested limit items w.store
    ({ w with store := store }, .ok summary)

/-- The task for some conversations. -/
def task (settings : OperationSettings) (ids : List String) : Task IndexSummary where
  title := "Indexing conversation content"
  initialStatus := "Indexing " ++ toString ids.length ++ " conversations"
  mode := .determinate
  total := some ids.length
  timeout := .ofSeconds settings.indexSeconds
  script := fun context =>
    .ok (Task.scriptOf context
      [Task.idsParam ids, ("batchSize", .ofNat (max settings.batchSize 1)),
        ("batchDelayMs", .ofNat settings.batchDelayMillis),
        ("maxContentChars", .ofNat settings.maxContentChars)] body)
  merge := merge ids.length settings.maxContentChars
  progressText := Task.countText "Indexed" ids.length

end Index

end ChatArchive.Operation
