import ChatArchive.Operation.Index
import ChatArchive.Proofs.Operation.Reply
import ChatArchive.Proofs.Store.Reachable
import ChatArchive.Proofs.Store.Restore

/-!
# What indexing makes of the store

The items come from the page, which may hand over anything, also texts of conversations that nobody
asked for, and several of one.  Merging them asks only whether the store knows the conversation: a
record has afterwards the text of the last item that brings one for it, and the content that it had
if there is none (`contents_of_items`).
-/

namespace ChatArchive

/-- The text says all about a content. -/
theorem Record.content_eq_iff {a b : Record} :
    a.content = b.content ↔ a.contentText? = b.contentText? := by
  have hinjective : Function.Injective fun c : Record.Content => c.val.text := by
    rintro ⟨⟨text, lowered, rfl⟩, htext⟩ ⟨⟨other, lowered, rfl⟩, hother⟩ rfl
    rfl
  exact (Option.map_injective hinjective).eq_iff.symm

/-- A text that takes the place of the content changes the record unless it is that content. -/
theorem Record.keeps_content_iff {before after : Record} {counts : Option String}
    (htext : after.contentText? = counts.or before.contentText?) :
    (after.content = before.content ∧ after.isIndexed = before.isIndexed) ↔
      ∀ text, counts = some text → before.contentText? = some text := by
  have hflag : after.content = before.content → after.isIndexed = before.isIndexed := by
    intro hcontent
    rw [after.isIndexed_eq, before.isIndexed_eq, hcontent]
  rw [and_iff_left_of_imp hflag, Record.content_eq_iff, htext]
  cases counts with
  | none => simp
  | some text => simp [eq_comm]

namespace Operation.Index

open Store

/-- What is left of a text within a limit. -/
def cut (limit : Nat) (text : String) : String := String.ofList (text.toList.take limit)

/-- The text that an item brings: none if it failed, and none if nothing is left of its content
within the limit. -/
def text? (limit : Nat) (item : IndexedItem) : Option String :=
  if item.error.isNone ∧ cut limit item.content ≠ "" then some (cut limit item.content) else none

/-- The text that counts for a conversation: that of the last item which brings one for it. -/
def lastText? (limit : Nat) (items : List IndexedItem) (id : String) : Option String :=
  items.reverse.findSome? fun item => if item.id = id then text? limit item else none

/-- No text counts for a conversation if no item brings one for it. -/
theorem lastText?_eq_none_iff {limit : Nat} {items : List IndexedItem} {id : String} :
    lastText? limit items id = none ↔ ∀ item ∈ items, item.id = id → text? limit item = none := by
  simp [lastText?]

/-- An item gives a content unless it failed or is empty, even if nothing is left of it within the
limit. -/
theorem content?_eq (limit : Nat) (item : IndexedItem) :
    content? limit item =
      if item.error.isNone ∧ item.content ≠ "" then some (item.id, cut limit item.content)
      else none := by
  unfold content? isFailed isEmpty
  cases item.error with
  | some e => rfl
  | none => by_cases hempty : item.content = "" <;> simp [hempty, cut]

/-- A content that is empty within the limit does not count, no more than one that is empty. -/
theorem filter_content? (limit : Nat) (item : IndexedItem) :
    (content? limit item).filter (fun c => c.2 ≠ "") = (text? limit item).map (item.id, ·) := by
  rw [content?_eq, text?]
  by_cases hempty : item.content = ""
  · simp [hempty, cut]
  · by_cases hcut : cut limit item.content = "" <;> cases item.error <;>
      simp [hempty, hcut]

/-- What a merge goes through for a lookup are the texts of the items, the last one first. -/
theorem lastTexts_contents (limit : Nat) (items : List IndexedItem) :
    lastTexts (items.filterMap (content? limit)) =
      items.reverse.filterMap fun item => (text? limit item).map (item.id, ·) := by
  rw [lastTexts, List.filter_filterMap, ← List.filterMap_reverse]
  exact List.filterMap_congr fun item _ => filter_content? limit item

/-- The last texts that are not empty are those of the items that bring one. -/
theorem lookup_lastTexts (limit : Nat) (items : List IndexedItem) (id : String) :
    (lastTexts (items.filterMap (content? limit))).lookup id = lastText? limit items id := by
  rw [lastTexts_contents, lastText?]
  induction items.reverse with
  | nil => rfl
  | cons item rest ih =>
    rw [List.filterMap_cons, List.findSome?_cons]
    by_cases hid : id = item.id
    · subst hid
      cases htext : text? limit item <;> simp [ih]
    · rw [if_neg (Ne.symm hid)]
      have hother : (id == item.id) = false := beq_eq_false_iff_ne.mpr hid
      cases htext : text? limit item <;> simp [List.lookup_cons, hother, ih]

/-- A record gets the text that counts for it, or else keeps the one that it had. -/
theorem contentText?_fill_contents (limit : Nat) (items : List IndexedItem) (r : Record) :
    (r.fill (lastTexts (items.filterMap (content? limit)))).contentText? =
      (lastText? limit items r.id).or r.contentText? := by
  rw [← lookup_lastTexts]
  exact r.contentText?_fill fun _ => text_ne_of_mem_lastTexts

/-- A record that was there is there after a merge, with the text that counts for it. -/
theorem exists_of_mergeItems {s : Store} (hs : s.Indexed) (requested limit : Nat)
    (items : List IndexedItem) {id : String} {before : Record} (hbefore : s.get? id = some before) :
    ∃ after, (mergeItems requested limit items s).1.get? id = some after ∧
      after.contentText? = (lastText? limit items id).or before.contentText? := by
  obtain ⟨hmem, rfl⟩ := hs.get?_eq_some_iff.mp hbefore
  have hindexed : (mergeItems requested limit items s).1.Indexed := (hs.mergeContents 0 _).refresh
  have hrecords : (mergeItems requested limit items s).1.records = _ := records_mergeContent _ hs
  refine ⟨s.criteria.mark (before.fill (lastTexts (items.filterMap (content? limit)))),
    hindexed.get?_eq_some_iff.mpr ⟨?_, before.id_fill _⟩,
    contentText?_fill_contents limit items before⟩
  rw [hrecords]
  exact List.mem_map_of_mem hmem

/-- A merge of items that can be decoded is the merge of these items. -/
theorem merge_eq {settings : OperationSettings} {ids : List String} {r : ScriptResult}
    {items : List IndexedItem} (hitems : r.dataAs decoder = .ok items) (clock : Clock)
    (w : Workspace) :
    (task settings ids).merge clock r w =
      ({ w with store := (mergeItems ids.length settings.maxContentChars items w.store).1 },
        .ok (mergeItems ids.length settings.maxContentChars items w.store).2) := by
  show Index.merge ids.length settings.maxContentChars clock r w = _
  rw [Index.merge, hitems]

/-- Indexing leaves the records where they are, whatever items the page hands over.  A record has
afterwards the text that counts for it among the items, or else its content, and it is indexed if
that makes a content; so its content and whether it is indexed stay as they are exactly if no other
text counts for it.  Where every item that brings a text is of a conversation that the task asked
for, nothing changes for the others. -/
theorem contents_of_items {settings : OperationSettings} {ids : List String} {r : ScriptResult}
    {w : Workspace} {items : List IndexedItem} (hstore : w.store.Reachable)
    (hitems : r.dataAs decoder = .ok items) (clock : Clock) :
    ∃ (store : Store) (summary : IndexSummary),
      (task settings ids).merge clock r w = ({ w with store := store }, .ok summary) ∧
      store.ids = w.store.ids ∧
      ∀ id before, w.store.get? id = some before → ∃ after, store.get? id = some after ∧
        after.contentText? =
          (lastText? settings.maxContentChars items id).or before.contentText? ∧
        after.isIndexed = after.contentText?.isSome ∧
        ((after.content = before.content ∧ after.isIndexed = before.isIndexed) ↔
          ∀ text, lastText? settings.maxContentChars items id = some text →
            before.contentText? = some text) ∧
        ((∀ item ∈ items, text? settings.maxContentChars item ≠ none → item.id ∈ ids) → id ∉ ids →
          after.content = before.content ∧ after.isIndexed = before.isIndexed) := by
  have hindexed := hstore.consistent.indexed
  refine ⟨_, _, merge_eq hitems clock w, ids_mergeContent _ hindexed, ?_⟩
  intro id before hbefore
  obtain ⟨after, hafter, htext⟩ :=
    exists_of_mergeItems hindexed ids.length settings.maxContentChars items hbefore
  have hsame := Record.keeps_content_iff htext
  refine ⟨after, hafter, htext, after.isIndexed_eq_isSome, hsame, fun hasked hid => ?_⟩
  have hnone : lastText? settings.maxContentChars items id = none := by
    refine lastText?_eq_none_iff.mpr fun item hitem hitemid => ?_
    by_contra hbrings
    exact hid (hitemid ▸ hasked item hitem hbrings)
  refine hsame.mpr fun text hcounts => ?_
  rw [hnone] at hcounts
  cases hcounts

/-- An item of the page with some content. -/
def itemJson (id content : String) : Json := .obj [("id", .str id), ("content", .str content)]

/-- Of two texts for a conversation the last one counts, and the other conversation, which was not
asked for, still has none. -/
theorem contents_of_repeated_items :
    let r := resultOf "items" [itemJson "b" "Draft", itemJson "b" "Text"]
    let w : Workspace := ⟨Store.ofRecords (twoRecords false), ⟨[], []⟩⟩
    w.store.Reachable ∧ ∃ (items : List IndexedItem) (store : Store) (summary : IndexSummary)
        (filled other : Record),
      r.dataAs decoder = .ok items ∧
      (task .default ["b"]).merge (fun _ => Timestamp.epoch) r w =
        ({ w with store := store }, .ok summary) ∧
      (store.get? "b" = some filled ∧ filled.contentText? = some "Text") ∧
      store.get? "a" = some other ∧ other.content = none ∧ other.isIndexed = false := by
  intro r w
  have hstore : w.store.Reachable := .ofRecords _
  let items : List IndexedItem := [⟨"b", "Draft", none⟩, ⟨"b", "Text", none⟩]
  have hitems : r.dataAs decoder = .ok items := by rfl
  obtain ⟨store, summary, hmerge, -, hall⟩ :=
    @contents_of_items .default ["b"] r w items hstore hitems fun _ => Timestamp.epoch
  obtain ⟨filled, hfilled, htext, -⟩ := hall "b" _ (get?_twoRecords (.tail _ (.head _)))
  have hcounts : lastText? OperationSettings.default.maxContentChars items "b" = some "Text" := by
    decide
  rw [hcounts, Option.some_or] at htext
  obtain ⟨other, hother, -, -, -, hframe⟩ := hall "a" _ (get?_twoRecords (.head _))
  have hasked : ∀ item ∈ items, text? OperationSettings.default.maxContentChars item ≠ none →
      item.id ∈ ["b"] := by
    decide
  exact ⟨hstore, items, store, summary, filled, other, hitems, hmerge, ⟨hfilled, htext⟩, hother,
    hframe hasked (by decide)⟩

/-- A record does get content although nobody asked for it: the page need only hand over an item
for it. -/
theorem unasked_item_is_merged :
    ¬∀ (settings : OperationSettings) (ids : List String) (r : ScriptResult) (clock : Clock)
        (w : Workspace) (store : Store) (summary : IndexSummary), w.store.Reachable →
      (task settings ids).merge clock r w = ({ w with store := store }, .ok summary) →
      ∀ id, id ∉ ids → ∀ before, w.store.get? id = some before →
        ∃ after, store.get? id = some after ∧ after.content = before.content ∧
          after.isIndexed = before.isIndexed := by
  intro hframe
  let r := resultOf "items" [itemJson "b" "Text"]
  let w : Workspace := ⟨Store.ofRecords (twoRecords false), ⟨[], []⟩⟩
  let items : List IndexedItem := [⟨"b", "Text", none⟩]
  have hstore : w.store.Reachable := .ofRecords _
  have hbefore : w.store.get? "b" = some (twoRecords false)[1] :=
    get?_twoRecords (.tail _ (.head _))
  have hitems : r.dataAs decoder = .ok items := by rfl
  let merged := mergeItems 1 OperationSettings.default.maxContentChars items w.store
  have hmerge : (task .default ["a"]).merge (fun _ => Timestamp.epoch) r w =
      ({ w with store := merged.1 }, .ok merged.2) :=
    merge_eq hitems (fun _ => Timestamp.epoch) w
  obtain ⟨kept, hkept, hcontent, -⟩ :=
    hframe _ _ _ _ _ _ _ hstore hmerge "b" (by decide) _ hbefore
  obtain ⟨after, hafter, htext⟩ := exists_of_mergeItems hstore.consistent.indexed 1
    OperationSettings.default.maxContentChars items hbefore
  have hsame : kept = after := Option.some.inj (hkept.symm.trans hafter)
  have hcounts : lastText? OperationSettings.default.maxContentChars items "b" = some "Text" := by
    decide
  rw [Record.content_eq_iff, hsame, htext, hcounts] at hcontent
  cases hcontent

end Operation.Index

end ChatArchive
