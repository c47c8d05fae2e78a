import ChatArchive.Operation.Task
import ChatArchive.Service.Walk

/-!
# Fetching the listing

The page walks through the listing and hands every page over.  The rules of a walk are applied to
these again, and what the walk keeps is merged into the store.
-/

namespace ChatArchive.Operation

open Json

/-- What came of fetching. -/
structure FetchSummary where
  pages : Nat
  distinct : Nat
  counts : Store.ListingCounts
  stop : WalkStop
  deriving Repr, DecidableEq

namespace Fetch

/-- The work of the page. -/
def body : List String :=
  ["",
   "        const seen = new Set();",
   "        const cursors = new Set();",
   "        const pages = [];",
   "        let cursor = null;",
   "        let firstSize = null;",
   "        while (pages.length < CONFIG.pageCeiling) \x7b",
   "          const query = cursor ? '?cursor=' + encodeURIComponent(cursor) : '';",
   "          const body = await api('GET', '/chat_conversations' + query);",
   "          const raw = Array.isArray(body) ? body : ((body && (body.data || body.conversations)) || []);",
   "          const items = raw",
   "            .filter((c) => c && c.uuid)",
   "            .map((c) => (\x7b uuid: c.uuid, name: c.name || null, updated_at: c.updated_at || null \x7d));",
   "          let next = Array.isArray(body) ? null : ((body && (body.next_cursor || body.cursor)) || null);",
   "          if (!next && items.length > 0) next = items[items.length - 1].uuid;",
   "          pages.push(\x7b cursor, next_cursor: next, items \x7d);",
   "",
   "          const novel = items.filter((c) => !seen.has(c.uuid));",
   "          novel.forEach((c) => seen.add(c.uuid));",
   "          tick(novel.length);",
   "          if (novel.length === 0) break;",
   "          if (firstSize === null) firstSize = items.length;",
   "          else if (items.length < firstSize) break;",
   "          if (!next || cursors.has(next) || next === cursor) break;",
   "          cursors.add(next);",
   "          cursor = next;",
   "        \x7d",
   "        return \x7b pages \x7d;",
   ""]

/-- The pages that were handed over. -/
def decoder : Decoder (List ListingPage) :=
  Decoder.record "FetchPayload"
    (.cons (.defaulted "pages" ListingPage.decoder.list []) .nil) fun (pages, _) => pages

/-- The most pages that are asked for; there is always one. -/
def ceiling (settings : OperationSettings) : Nat := max settings.pageCeiling 1

/-- Why fetching ended, if no rule stopped the walk: either nothing was handed over, or the page
had come to the ceiling. -/
def stopOf (w : Walk) : WalkStop :=
  w.stop.getD (if w.pages = 0 then .endOfListing else .ceiling)

/-- Merge pages. -/
def mergePages (ceiling : Nat) (clock : Clock) (pages : List ListingPage) (store : Store) :
    Store × FetchSummary :=
  let w := (Walk.start ceiling).acceptAll pages
  let (merged, counts) := store.mergeListing clock w.items
  (merged, ⟨w.pages, w.items.length, counts, stopOf w⟩)

/-- Merge a result. -/
def merge (ceiling : Nat) (clock : Clock) (r : ScriptResult) (w : Workspace) :
    Workspace × Except Failure FetchSummary :=
  match r.dataAs decoder with
  | .error f => (w, .error f)
  | .ok pages =>
    let (store, summary) := mergePages ceiling clock pages w.store
    ({ w with store := store }, .ok summary)

/-- The task. -/
def task (settings : OperationSettings) : Task FetchSummary where
  title := "Fetching conversations"
  initialStatus := "Loading conversation list"
  mode := .counter
  total := none
  timeout := .ofSeconds settings.fetchSeconds
  script := fun context =>
    .ok (Task.scriptOf context [("pageCeiling", .ofNat (ceiling settings))] body)
  merge := merge (ceiling settings)
  progressText := fun count => "Fetched " ++ toString count ++ " conversations"

end Fetch

end ChatArchive.Operation
