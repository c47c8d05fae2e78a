import ChatArchive.Operation.Export
import ChatArchive.Proofs.Export.Document
import ChatArchive.Proofs.Files.Write
import ChatArchive.Proofs.Operation.Reply
import Mathlib.Data.List.Forall2

/-!
# What an export writes

The items come from the page, and each has its entry in the document: a conversation in full if
there is one, and otherwise the reason why there is none.  No item is left out or changes places
because of another (`merge_writes_entries`).
-/

namespace ChatArchive.Operation.Export

open Json
open Files (Path)

/-! ## Entries of items -/

/-- A message as it is exported: with its full text, and as it is otherwise. -/
structure IsMessageOf (m : ChatMessage) (e : ExportMessage) : Prop where
  id : e.id = m.id
  sender : e.sender = m.sender
  text : e.text = m.fullText
  createdAt : e.createdAt = m.createdAt
  attachments : e.attachments = m.attachments

/-- A conversation as it is exported: with a name that may be empty, and all of its messages. -/
structure IsConversationOf (d : ConversationDetail) (c : FullConversation) : Prop where
  id : c.id = d.id
  name : c.name = d.name.getD ""
  createdAt : c.createdAt = d.createdAt
  updatedAt : c.updatedAt = d.updatedAt
  model : c.model = d.model
  messages : List.Forall₂ IsMessageOf d.messages c.messages

/-- The entry of an item.  An error counts before what else there is. -/
inductive IsEntryOf (item : ExportedItem) : ExportEntry → Prop where
  | error {error : String} (herror : item.error = some error) :
    IsEntryOf item (.failed item.id error)
  | empty (herror : item.error = none) (hdetail : item.detail = none) :
    IsEntryOf item (.failed item.id "empty response")
  | malformed {detail : Json} {f : Fault} (herror : item.error = none)
    (hdetail : item.detail = some detail)
    (hfault : decodeValue ConversationDetail.decoder detail = .error f) :
    IsEntryOf item (.failed item.id ("malformed conversation: " ++ f.message))
  | full {detail : Json} {d : ConversationDetail} {c : FullConversation}
    (herror : item.error = none) (hdetail : item.detail = some detail)
    (hd : decodeValue ConversationDetail.decoder detail = .ok d) (hc : IsConversationOf d c) :
    IsEntryOf item (.full c)

/-- A relation that gives every element one image relates a list to the list of the images. -/
theorem forall₂_iff_eq_map {α β : Type} {R : α → β → Prop} {f : α → β}
    (h : ∀ a b, R a b ↔ b = f a) {as : List α} {bs : List β} :
    List.Forall₂ R as bs ↔ bs = as.map f := by
  constructor
  · intro hall
    induction hall with
    | nil => rfl
    | cons hab _ ih => rw [List.map_cons, ← (h _ _).mp hab, ← ih]
  · rintro rfl
    exact List.forall₂_map_right_iff.mpr (List.forall₂_same.mpr fun a _ => (h a _).mpr rfl)

/-- Every message has one exported form. -/
theorem isMessageOf_iff (m : ChatMessage) (e : ExportMessage) :
    IsMessageOf m e ↔ e = .ofMessage m := by
  constructor
  · rintro ⟨hid, hsender, htext, hcreatedAt, hattachments⟩
    obtain ⟨id, sender, text, createdAt, attachments⟩ := e
    simp_all [ExportMessage.ofMessage]
  · rintro rfl
    exact ⟨rfl, rfl, rfl, rfl, rfl⟩

/-- So has every conversation. -/
theorem isConversationOf_iff (d : ConversationDetail) (c : FullConversation) :
    IsConversationOf d c ↔ c = .ofDetail d := by
  constructor
  · rintro ⟨hid, hname, hcreatedAt, hupdatedAt, hmodel, hmessages⟩
    rw [forall₂_iff_eq_map isMessageOf_iff] at hmessages
    obtain ⟨id, name, createdAt, updatedAt, model, messages⟩ := c
    simp_all [FullConversation.ofDetail]
  · rintro rfl
    exact ⟨rfl, rfl, rfl, rfl, rfl, (forall₂_iff_eq_map isMessageOf_iff).mpr rfl⟩

/-- Every item has one entry. -/
theorem isEntryOf_iff (item : ExportedItem) (e : ExportEntry) :
    IsEntryOf item e ↔ e = entryOf item := by
  constructor
  · intro he
    rw [entryOf]
    cases he with
    | error herror => rw [herror]
    | empty herror hdetail => rw [herror, hdetail]
    | malformed herror hdetail hfault => simp only [herror, hdetail, hfault]
    | full herror hdetail hd hc =>
      simp only [herror, hdetail, hd]
      rw [(isConversationOf_iff _ _).mp hc]
  · rintro rfl
    rw [entryOf]
    cases herror : item.error with
    | some error => exact .error herror
    | none =>
      cases hdetail : item.detail with
      | none => exact .empty herror hdetail
      | some detail =>
        cases hd : decodeValue ConversationDetail.decoder detail with
        | error f =>
          simp only [hd]
          exact .malformed herror hdetail hd
        | ok d =>
          simp only [hd]
          exact .full herror hdetail hd ((isConversationOf_iff d _).mpr rfl)

/-! ## Documents -/

/-- Where a file can be put a document is there after it was written. -/
theorem exists_writeDocument {files : Files} {target : Path} (hout : files.IsWritable target)
    (d : ExportDocument) :
    ∃ done : Files, writeDocument files target d =
        (done, .ok ⟨target, d.entries.length - d.entries.countP ExportEntry.isFailed,
          d.entries.countP ExportEntry.isFailed⟩) ∧
      done.readText target = .text d.toNode.toPrettyText := by
  obtain ⟨done, hwrite, hthere⟩ := hout.write d.toNode.toPrettyText.toUTF8
  have hjson : files.writeJson target d.toNode = (done, true) := hwrite
  refine ⟨done, ?_, Files.readText_of_file hthere⟩
  rw [writeDocument, hjson]

/-- An export of items that can be decoded, to where a file can be put, leaves there a document of
full conversations with the entry of each item, in the order of the items, and counts those with
and without a conversation.  The text of the document is its indented JSON, from which it is decoded
as it is, as long as its attachments leave room (`ExportDocument.decode_written` says where the text
is refused). -/
theorem merge_writes_entries {settings : OperationSettings} {ids : List String} {target : Path}
    {r : ScriptResult} {items : List ExportedItem} {w : Workspace}
    (hitems : r.dataAs decoder = .ok items) (hout : w.files.IsWritable target) (clock : Clock) :
    ∃ (done : Files) (d : ExportDocument) (exported failed : Nat),
      (task settings ids target).merge clock r w =
        ({ w with files := done }, .ok ⟨target, exported, failed⟩) ∧
      done.readText target = .text d.toNode.toPrettyText ∧
      (d.IsExact → (∀ j ∈ d.attachments, j.toNode.depth + 6 < nestingLimit) →
        decodeText ExportDocument.decoder d.toNode.toPrettyText = .ok d) ∧
      d.kind = .full ∧ List.Forall₂ IsEntryOf items d.entries ∧ d.total = items.length ∧
      exported + failed = items.length ∧
      failed = (d.entries.filter ExportEntry.isFailed).length := by
  let d := ExportDocument.ofEntries (clock 0) .full (items.map entryOf)
  have hlength : d.entries.length = items.length := List.length_map _
  obtain ⟨done, hwrite, hthere⟩ := exists_writeDocument hout d
  refine ⟨done, d, d.entries.length - d.entries.countP ExportEntry.isFailed,
    d.entries.countP ExportEntry.isFailed, ?_, hthere, fun hd h => (hd.decodeText h).2, rfl,
    (forall₂_iff_eq_map isEntryOf_iff).mpr rfl, hlength, ?_, List.countP_eq_length_filter⟩
  · change merge target clock r w = _
    rw [merge, hitems]
    dsimp only
    rw [hwrite]
  · rw [Nat.sub_add_cancel List.countP_le_length, hlength]

/-- Of four items one has an error, one has nothing, one has no conversation, and one has a
conversation.  The document that is written has an entry of its kind for each, and can be read. -/
theorem merge_writes_entries_mixture :
    let detail := Json.obj [("chat_messages", .arr [.obj [("text", .str "hello")]]),
      ("uuid", .str "d")]
    let r := resultOf "items"
      [.obj [("detail", detail), ("error", .str "HTTP 404"), ("id", .str "a")],
        .obj [("detail", .null), ("id", .str "b")], .obj [("detail", .arr []), ("id", .str "c")],
        .obj [("detail", detail), ("id", .str "d")]]
    let w : Workspace := ⟨Store.ofRecords [], ⟨[], []⟩⟩
    (∃ items, r.dataAs decoder = .ok items) ∧ w.files.IsWritable "export.json" ∧
      ∃ (done : Files) (d : ExportDocument),
        (task .default ["a", "b", "c", "d"] "export.json").merge (fun _ => .epoch) r w =
          ({ w with files := done }, .ok ⟨"export.json", 1, 3⟩) ∧
        done.readText "export.json" = .text d.toNode.toPrettyText ∧
        decodeText ExportDocument.decoder d.toNode.toPrettyText = .ok d ∧
        d.entries.map ExportEntry.isFailed = [true, true, true, false] := by
  intro detail r w
  have hitems : r.dataAs decoder = .ok [⟨"a", some detail, some "HTTP 404"⟩, ⟨"b", none, none⟩,
      ⟨"c", some (.arr []), none⟩, ⟨"d", some detail, none⟩] := rfl
  have hout : w.files.IsWritable "export.json" :=
    ⟨by decide, _, _, _, _, rfl, rfl, rfl⟩
  obtain ⟨done, d, exported, failed, hmerge, hthere, hread, -, hentries, htotal, hall, hfailed⟩ :=
    @merge_writes_entries .default ["a", "b", "c", "d"] _ _ _ _ hitems hout fun _ => .epoch
  have hkinds : d.entries.map ExportEntry.isFailed = [true, true, true, false] := by
    rw [(forall₂_iff_eq_map isEntryOf_iff).mp hentries]
    rfl
  have hnone : d.attachments = [] := by
    rw [ExportDocument.attachments, (forall₂_iff_eq_map isEntryOf_iff).mp hentries]
    rfl
  have hexact : d.IsExact := by
    refine ⟨htotal ▸ by decide, ?_, ?_⟩ <;> simp [hnone]
  refine ⟨⟨_, hitems⟩, hout, done, d, ?_, hthere, hread hexact (by simp [hnone]), hkinds⟩
  have hthree : failed = 3 := by
    rw [hfailed, (forall₂_iff_eq_map isEntryOf_iff).mp hentries]
    rfl
  obtain rfl : exported = 1 := by
    rw [hthree] at hall
    exact Nat.add_right_cancel hall
  rw [hmerge, hthree]

end ChatArchive.Operation.Export
