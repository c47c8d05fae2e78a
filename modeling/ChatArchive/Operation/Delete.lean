import ChatArchive.Operation.Task

/-!
# Deleting

The page deletes conversations one after the other and says of each whether it is gone.  Only
conversations that the task asked for leave the store.
-/

namespace ChatArchive.Operation

open Json

/-- What the page says about one conversation. -/
structure DeleteResult where
  id : String
  ok : Bool
  error : Option String

/-- What came of deleting: how many conversations are gone, and the others with their errors. -/
structure DeleteSummary where
  deleted : Nat
  failures : List (String × String)
  deriving Repr, DecidableEq

namespace Delete

/-- The work of the page. -/
def body : List String :=
  ["",
   "        const results = [];",
   "        for (let i = 0; i < CONFIG.ids.length; i++) \x7b",
   "          if (i > 0) await sleep(CONFIG.itemDelayMs);",
   "          const id = CONFIG.ids[i];",
   "          try \x7b",
   "            await api('DELETE', '/chat_conversations/' + encodeURIComponent(id));",
   "            results.push(\x7b id, ok: true \x7d);",
   "          \x7d catch (e) \x7b",
   "            results.push(\x7b id, ok: false, error: String((e && e.message) || e) \x7d);",
   "          \x7d",
   "          tick();",
   "        \x7d",
   "        return \x7b results \x7d;",
   ""]

/-- A result without an outcome is a failed one. -/
def resultDecoder : Decoder DeleteResult :=
  Decoder.record "DeleteResult"
    (.cons (.required "id" Decoder.string)
      (.cons (.defaulted "ok" Decoder.bool false)
        (.cons (.optional "error" Decoder.string) .nil)))
    fun (id, ok, error, _) => ⟨id, ok, error⟩

/-- The results that were handed over. -/
def decoder : Decoder (List DeleteResult) :=
  Decoder.record "DeletePayload"
    (.cons (.defaulted "results" resultDecoder.list []) .nil) fun (results, _) => results

/-- The identifiers of the conversations that are gone. -/
def deletedIds (results : List DeleteResult) : List String := (results.filter (·.ok)).map (·.id)

/-- The conversations that are not gone, with their errors. -/
def failuresOf (results : List DeleteResult) : List (String × String) :=
  (results.filter fun r => !r.ok).map fun r => (r.id, r.error.getD "unknown error")

/-- Merge results: those of conversations that nobody asked for do not count. -/
def mergeResults (ids : List String) (results : List DeleteResult) (store : Store) :
    Store × DeleteSummary :=
  let requested := results.filter fun r => ids.contains r.id
  let gone := deletedIds requested
  ((store.removeIds gone).1, ⟨gone.length, failuresOf requested⟩)

/-- Merge a result. -/
def merge (ids : List String) (_clock : Clock) (r : ScriptResult) (w : Workspace) :
    Workspace × Except Failure DeleteSummary :=
  match r.dataAs decoder with
  | .error f => (w, .error f)
  | .ok results =>
    let (store, summary) := mergeResults ids results w.store
    ({ w with store := store }, .ok summary)

/-- The task for some conversations. -/
def task (settings : OperationSettings) (ids : List String) : Task DeleteSummary where
  title := "Deleting conversations"
  initialStatus := "Deleting " ++ toString ids.length ++ " conversations"
  mode := .determinate
  total := some ids.length
  timeout := .ofSeconds settings.deleteSeconds
  script := fun context =>
    .ok (Task.scriptOf context
      [Task.idsParam ids, ("itemDelayMs", .ofNat settings.deleteDelayMillis)] body)
  merge := merge ids
  progressText := Task.countText "Deleted" ids.length

end Delete

end ChatArchive.Operation
