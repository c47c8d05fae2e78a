import ChatArchive.Proofs.Operation.Index
import ChatArchive.Proofs.Store.Content

/-!
# What indexing brings and what it reports

An item brings a text for a conversation if it did not fail and something is left of its content
within the limit.  Of the items that bring one for a record the last counts, and what fails or is
empty takes nothing away (`records_of_items`).

The report counts the items that failed, those that are empty before they are cut to the limit, and
those of which something is left afterwards.  An item of which nothing is left although it was not
empty is in none of these counts, which takes a limit of nothing (`balance_of_items`).
-/

namespace ChatArchive.Operation

/-- The item brings a text for a conversation: it did not fail, and something is left of its content
within the limit. -/
def IndexedItem.Brings (limit : Nat) (id : String) (item : IndexedItem) : Prop :=
  item.id = id ∧ item.error = none ∧ Index.cut limit item.content ≠ ""

/-- It can be decided, for the texts can be compared. -/
instance (limit : Nat) (id : String) : DecidablePred (IndexedItem.Brings limit id) :=
  fun item => inferInstanceAs
    (Decidable (item.id = id ∧ item.error = none ∧ Index.cut limit item.content ≠ ""))

namespace Index

open Store

variable {limit : Nat} {items : List IndexedItem}

/-! ## The text that counts -/

/-- What an item brings is its content, cut to the limit. -/
theorem text?_of_brings {item : IndexedItem} {id : String} (h : item.Brings limit id) :
    text? limit item = some (cut limit item.content) :=
  if_pos ⟨Option.isNone_iff_eq_none.mpr h.2.1, h.2.2⟩

/-- An item brings no text for a conversation if it has none, or if it is of another. -/
theorem not_brings_iff {item : IndexedItem} {id : String} :
    ¬item.Brings limit id ↔ (item.id = id → text? limit item = none) := by
  simp [IndexedItem.Brings, text?]

/-- No text counts for a conversation if no item brings one for it. -/
theorem lastText?_eq_none_iff_not_brings {id : String} :
    lastText? limit items id = none ↔ ∀ item ∈ items, ¬item.Brings limit id := by
  simp only [lastText?_eq_none_iff, not_brings_iff]

/-- The last item that brings a text counts. -/
theorem lastText?_of_last {front rest : List IndexedItem} {item : IndexedItem} {id : String}
    (hitem : item.Brings limit id) (hrest : ∀ other ∈ rest, ¬other.Brings limit id) :
    lastText? limit (front ++ item :: rest) id = some (cut limit item.content) := by
  have hnone : lastText? limit rest id = none := lastText?_eq_none_iff_not_brings.mpr hrest
  unfold lastText? at hnone ⊢
  rw [List.reverse_append, List.reverse_cons, List.append_assoc, List.findSome?_append, hnone,
    Option.none_or, List.singleton_append, List.findSome?_cons, if_pos hitem.1,
    text?_of_brings hitem]

/-! ## The contents that are taken -/

/-- A merge takes contents of the known conversations that some item brings a text for. -/
theorem mem_takenIds_contents_iff {known : List String} {id : String} :
    id ∈ takenIds known (items.filterMap (content? limit)) ↔
      id ∈ known ∧ ∃ item ∈ items, item.Brings limit id := by
  have hlookup := isSome_lookup_lastTexts (items.filterMap (content? limit)) id
  have hbrings : (lastText? limit items id).isSome = true ↔
      ∃ item ∈ items, item.Brings limit id := by
    rw [Option.isSome_iff_ne_none, ne_eq, lastText?_eq_none_iff_not_brings]
    push Not
    rfl
  rw [lookup_lastTexts, Bool.eq_iff_iff, decide_eq_true_iff] at hlookup
  rw [mem_takenIds, ← hlookup, hbrings]

/-- It takes as many as items of known conversations bring a text. -/
theorem length_takenIds_contents (known : List String) :
    (takenIds known (items.filterMap (content? limit))).length =
      items.countP fun item => item.Brings limit item.id ∧ item.id ∈ known := by
  rw [length_takenIds, List.countP_filterMap]
  refine List.countP_congr fun item _ => ?_
  rw [content?_eq]
  by_cases hempty : item.content = ""
  · simp [IndexedItem.Brings, hempty, cut]
  · cases herror : item.error <;> simp [IndexedItem.Brings, herror, hempty, and_comm]

/-! ## The records afterwards -/

/-- A record as it is after a merge of items, against what it was before: the same but for its
content, which is that of the last item that brings one for it, and its own if there is none. -/
structure IsIndexedBy (limit : Nat) (items : List IndexedItem) (before after : Record) : Prop where
  id : after.id = before.id
  title : after.title = before.title
  updatedAt : after.updatedAt = before.updatedAt
  selected : after.selected = before.selected
  filled : ∀ front item rest, items = front ++ item :: rest → item.Brings limit before.id →
    (∀ other ∈ rest, ¬other.Brings limit before.id) →
    after.contentText? = some (cut limit item.content) ∧ after.isIndexed = true
  kept : (∀ item ∈ items, ¬item.Brings limit before.id) →
    after.content = before.content ∧ after.isIndexed = before.isIndexed

/-- Filling in the last texts is indexing by the items. -/
theorem isIndexedBy_fill (limit : Nat) (items : List IndexedItem) (c : Criteria) (r : Record) :
    IsIndexedBy limit items r (c.mark (r.fill (lastTexts (items.filterMap (content? limit))))) := by
  let contents := lastTexts (items.filterMap (content? limit))
  let after := c.mark (r.fill contents)
  obtain ⟨htitle, htime, hselected⟩ := r.listing_fill contents
  have htext : after.contentText? = (lastText? limit items r.id).or r.contentText? :=
    contentText?_fill_contents limit items r
  refine ⟨r.id_fill contents, htitle, htime, hselected, ?_, ?_⟩
  · rintro front item rest rfl hitem hrest
    have hfilled : after.contentText? = some (cut limit item.content) := by
      rw [htext, lastText?_of_last hitem hrest, Option.some_or]
    refine ⟨hfilled, ?_⟩
    show after.isIndexed = true
    rw [after.isIndexed_eq_isSome, hfilled, Option.isSome_some]
  · intro hnone
    refine (Record.keeps_content_iff htext).mpr fun text hcounts => ?_
    rw [lastText?_eq_none_iff_not_brings.mpr hnone] at hcounts
    cases hcounts

/-- A merge of items leaves the records where they are.  Each has afterwards the text of the last
item that brings one for it, and all else is as it was; so items that failed, that are empty or of
which nothing is left take no content away.  The records that are left without content are those
that were, less the ones that some item brings a text for, in the same order. -/
theorem records_of_items {settings : OperationSettings} {ids : List String} {r : ScriptResult}
    {w : Workspace} {items : List IndexedItem} (hstore : w.store.Reachable)
    (hitems : r.dataAs decoder = .ok items) (clock : Clock) :
    ∃ (store : Store) (summary : IndexSummary),
      (task settings ids).merge clock r w = ({ w with store := store }, .ok summary) ∧
      List.Forall₂ (IsIndexedBy settings.maxContentChars items) w.store.records store.records ∧
      store.unindexedIds = w.store.unindexedIds.filter fun id =>
        ∀ item ∈ items, ¬item.Brings settings.maxContentChars id := by
  have hindexed := hstore.consistent.indexed
  let contents := items.filterMap (content? settings.maxContentChars)
  have hrecords : (w.store.mergeContent contents).1.records = _ :=
    records_mergeContent contents hindexed
  have hpending : (w.store.mergeContent contents).1.unindexedIds = _ :=
    unindexedIds_mergeContent hindexed contents
  refine ⟨(w.store.mergeContent contents).1, _, merge_eq hitems clock w, ?_, ?_⟩
  · rw [hrecords, List.forall₂_map_right_iff, List.forall₂_same]
    exact fun before _ => isIndexedBy_fill _ items w.store.criteria before
  · rw [hpending]
    refine List.filter_congr fun id hid => ?_
    have hknown : id ∈ w.store.ids := mem_ids_of_mem_unindexedIds hid
    rw [decide_eq_decide, mem_takenIds_contents_iff, and_iff_right hknown]
    push Not
    rfl

/-- Settings with a limit on contents. -/
def limitedTo (limit : Nat) : OperationSettings :=
  { OperationSettings.default with maxContentChars := limit }

/-- An item of the page that says what went wrong. -/
def failureJson (id error : String) : Json := .obj [("id", .str id), ("error", .str error)]

/-- The second of two texts counts, cut behind a character beyond ASCII, and the failure behind it
takes nothing away; nothing is known of the third conversation. -/
theorem records_of_conflicting_items :
    let r := resultOf "items" [itemJson "a" "Draft", itemJson "a" "Héllo", failureJson "a" "HTTP 500",
      itemJson "z" "Text", itemJson "b" ""]
    let w : Workspace := ⟨Store.ofRecords (twoRecords false), ⟨[], []⟩⟩
    w.store.Reachable ∧ ∃ (items : List IndexedItem) (store : Store) (summary : IndexSummary),
      r.dataAs decoder = .ok items ∧
      (task (limitedTo 2) ["a", "b"]).merge (fun _ => Timestamp.epoch) r w =
        ({ w with store := store }, .ok summary) ∧
      store.records.map (fun record => (record.id, record.contentText?)) =
        [("a", some "Hé"), ("b", none)] ∧
      store.unindexedIds = ["b"] := by
  intro r w
  let items : List IndexedItem := [⟨"a", "Draft", none⟩, ⟨"a", "Héllo", none⟩,
    ⟨"a", "", some "HTTP 500"⟩, ⟨"z", "Text", none⟩, ⟨"b", "", none⟩]
  have hitems : r.dataAs decoder = .ok items := by rfl
  have hstore : w.store.Reachable := .ofRecords _
  have hbefore : w.store.records = twoRecords false := records_twoRecords false
  have hpending : w.store.unindexedIds = ["a", "b"] := by
    rw [Store.unindexedIds, hbefore, List.mergeSort_of_pairwise (by decide +kernel)]
    decide +kernel
  obtain ⟨store, summary, hmerge, hrecords, hleft⟩ :=
    @records_of_items (limitedTo 2) ["a", "b"] r w items hstore hitems fun _ => Timestamp.epoch
  refine ⟨hstore, items, store, summary, hitems, hmerge, ?_, ?_⟩
  · rw [hbefore] at hrecords
    generalize store.records = after at hrecords
    obtain _ | ⟨hfirst, _ | ⟨hsecond, _ | _⟩⟩ := hrecords
    obtain ⟨htext, -⟩ :=
      hfirst.filled [items[0]] items[1] (items.drop 2) rfl (by decide) (by decide)
    obtain ⟨hkept, -⟩ := hsecond.kept (by decide)
    have hnone := Record.content_eq_iff.mp hkept
    simp only [List.map_cons, List.map_nil, hfirst.id, htext, hsecond.id, hnone]
    decide
  · rw [hleft, hpending]
    decide

/-! ## The report -/

/-- Did the conversation have a text of which nothing is left within the limit? -/
def isLost (limit : Nat) (item : IndexedItem) : Bool :=
  item.error.isNone && item.content != "" && cut limit item.content == ""

/-- Nothing is left of a text only if nothing was there or nothing is allowed. -/
theorem cut_eq_empty_iff {text : String} : cut limit text = "" ↔ limit = 0 ∨ text = "" := by
  simp [cut]

/-- An item brings a text, is empty, has failed or was lost, and only one of these. -/
theorem countP_outcomes (limit : Nat) (items : List IndexedItem) :
    items.countP (fun item => item.Brings limit item.id) + items.countP isEmpty +
      items.countP isFailed + items.countP (isLost limit) = items.length := by
  induction items with
  | nil => rfl
  | cons item rest ih =>
    have hone : (if item.Brings limit item.id then 1 else 0) + (if isEmpty item then 1 else 0) +
        (if isFailed item then 1 else 0) + (if isLost limit item then 1 else 0) = 1 := by
      obtain ⟨id, content, error⟩ := item
      cases error with
      | some e => simp [IndexedItem.Brings, isEmpty, isFailed, isLost]
      | none =>
        by_cases hempty : content = ""
        · simp [IndexedItem.Brings, isEmpty, isFailed, isLost, hempty, cut]
        · by_cases hcut : cut limit content = "" <;>
            simp [IndexedItem.Brings, isEmpty, isFailed, isLost, hempty, hcut]
    simp only [List.countP_cons, List.length_cons, decide_eq_true_eq]
    omega

/-- Nothing is lost if the limit leaves something of a text, or if no text was fetched. -/
theorem countP_isLost_eq_zero_iff :
    items.countP (isLost limit) = 0 ↔
      0 < limit ∨ ∀ item ∈ items, item.error = none → item.content = "" := by
  rw [List.countP_eq_zero]
  simp only [isLost, Bool.and_eq_true, Option.isNone_iff_eq_none, bne_iff_ne, beq_iff_eq,
    cut_eq_empty_iff]
  rcases Nat.eq_zero_or_pos limit with rfl | hpos
  · simp
  · have hne : limit ≠ 0 := Nat.ne_of_gt hpos
    simp [hpos, hne]

/-- The report of a merge says how many items of known conversations brought a text, how many were
empty and how many failed. -/
theorem mergeItems_summary {s : Store} (hs : s.Indexed) (requested limit : Nat)
    (items : List IndexedItem) :
    (mergeItems requested limit items s).2 =
      ⟨requested, items.countP fun item => item.Brings limit item.id ∧ item.id ∈ s.ids,
        items.countP isEmpty, items.countP isFailed⟩ := by
  rw [← length_takenIds_contents, ← count_mergeContent hs]
  rfl

/-- Where the page hands over one item for each conversation that was asked for, and the store knows
all of these, the report leaves out those whose text is lost.  So it accounts for every one exactly
if the limit leaves something of a text, or no text was fetched. -/
theorem balance_of_items {settings : OperationSettings} {ids : List String} {r : ScriptResult}
    {w : Workspace} {items : List IndexedItem} (hstore : w.store.Reachable)
    (hitems : r.dataAs decoder = .ok items) (hknown : ∀ id ∈ ids, id ∈ w.store.ids)
    (heach : (items.map IndexedItem.id).Perm ids) (clock : Clock) :
    ∃ (store : Store) (summary : IndexSummary),
      (task settings ids).merge clock r w = ({ w with store := store }, .ok summary) ∧
      summary.requested = ids.length ∧
      summary.indexed + summary.empty + summary.failed +
        items.countP (isLost settings.maxContentChars) = summary.requested ∧
      (summary.indexed + summary.empty + summary.failed = summary.requested ↔
        0 < settings.maxContentChars ∨
          ∀ item ∈ items, item.error = none → item.content = "") := by
  have hall : items.countP (fun item =>
      item.Brings settings.maxContentChars item.id ∧ item.id ∈ w.store.ids) =
        items.countP fun item => item.Brings settings.maxContentChars item.id := by
    refine List.countP_congr fun item hitem => ?_
    have hid : item.id ∈ w.store.ids := hknown _ (heach.subset (List.mem_map_of_mem hitem))
    simp [hid]
  have hlength : items.length = ids.length := by
    rw [← heach.length_eq, List.length_map]
  have hparts := countP_outcomes settings.maxContentChars items
  refine ⟨_, _, merge_eq hitems clock w, ?_⟩
  rw [mergeItems_summary hstore.consistent.indexed, hall, ← countP_isLost_eq_zero_iff]
  dsimp only
  omega

/-- One conversation has a text and the other fails, and both are accounted for. -/
theorem balance_of_text_and_failure :
    let r := resultOf "items" [failureJson "b" "HTTP 500", itemJson "a" "Text"]
    let w : Workspace := ⟨Store.ofRecords (twoRecords false), ⟨[], []⟩⟩
    w.store.Reachable ∧ ∃ (items : List IndexedItem) (store : Store) (summary : IndexSummary),
      r.dataAs decoder = .ok items ∧ (∀ id ∈ ["a", "b"], id ∈ w.store.ids) ∧
      (items.map IndexedItem.id).Perm ["a", "b"] ∧
      (task (limitedTo 2) ["a", "b"]).merge (fun _ => Timestamp.epoch) r w =
        ({ w with store := store }, .ok summary) ∧
      summary.indexed + summary.empty + summary.failed = 2 := by
  intro r w
  let items : List IndexedItem := [⟨"b", "", some "HTTP 500"⟩, ⟨"a", "Text", none⟩]
  have hitems : r.dataAs decoder = .ok items := by rfl
  have hstore : w.store.Reachable := .ofRecords _
  have hknown : ∀ id ∈ ["a", "b"], id ∈ w.store.ids := by
    rw [ids_twoRecords]
    exact fun _ hid => hid
  have heach : (items.map IndexedItem.id).Perm ["a", "b"] := by decide
  obtain ⟨store, summary, hmerge, hrequested, -, hbalance⟩ :=
    @balance_of_items (limitedTo 2) ["a", "b"] r w items hstore hitems hknown heach
      fun _ => Timestamp.epoch
  refine ⟨hstore, items, store, summary, hitems, hknown, heach, hmerge, ?_⟩
  exact (hbalance.mpr (.inl (by decide))).trans hrequested

/-- With a limit of nothing a text is neither indexed nor empty nor a failure. -/
theorem text_beyond_limit_is_not_reported :
    ¬∀ (settings : OperationSettings) (ids : List String) (r : ScriptResult) (clock : Clock)
        (w : Workspace) (items : List IndexedItem) (store : Store) (summary : IndexSummary),
      w.store.Reachable → ids.Nodup → (∀ id ∈ ids, id ∈ w.store.ids) →
      r.dataAs decoder = .ok items → (items.map IndexedItem.id).Perm ids →
      (task settings ids).merge clock r w = ({ w with store := store }, .ok summary) →
      summary.indexed + summary.empty + summary.failed = summary.requested := by
  intro hbalance
  let w : Workspace := ⟨Store.ofRecords (twoRecords false), ⟨[], []⟩⟩
  let items : List IndexedItem := [⟨"a", "Text", none⟩]
  have hitems : (resultOf "items" [itemJson "a" "Text"]).dataAs decoder = .ok items := by rfl
  have hstore : w.store.Reachable := .ofRecords _
  have hknown : ∀ id ∈ ["a"], id ∈ w.store.ids := by
    rw [ids_twoRecords]
    decide
  have hsum := hbalance (limitedTo 0) ["a"] _ (fun _ => Timestamp.epoch) w items _ _ hstore
    (by decide) hknown hitems (by decide) (merge_eq hitems _ w)
  rw [mergeItems_summary hstore.consistent.indexed] at hsum
  have hnone : items.countP (fun item => item.Brings 0 item.id ∧ item.id ∈ w.store.ids) = 0 :=
    List.countP_eq_zero.mpr (by simp [items, IndexedItem.Brings, cut])
  change items.countP (fun item => item.Brings 0 item.id ∧ item.id ∈ w.store.ids) + 0 + 0 = 1
    at hsum
  omega

end Index

end ChatArchive.Operation
