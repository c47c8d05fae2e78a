import ChatArchive.Export.Document
import ChatArchive.Proofs.Json.Value
import ChatArchive.Proofs.Snapshot.RoundTrip

/-!
# Reading documents back

A document is decoded from its text as it was written, each entry as the kind that it is, as long as
the attachments leave room for the levels around them; otherwise the text is refused for its depth
(`ExportDocument.decode_written`).
-/

namespace ChatArchive

open Json

/-! ## Attachments -/

/-- The attachments of all messages of a conversation. -/
def FullConversation.attachments (c : FullConversation) : List Json :=
  c.messages.flatMap (·.attachments)

/-- The attachments of an entry; only a conversation in full has any. -/
def ExportEntry.attachments : ExportEntry → List Json
  | full c => c.attachments
  | listed _ | failed _ _ => []

/-- The attachments of all entries. -/
def ExportDocument.attachments (d : ExportDocument) : List Json :=
  d.entries.flatMap (·.attachments)

/-! ## Messages and conversations -/

/-- A message is decoded from its node as it was, with two levels around its attachments. -/
theorem ExportMessage.reads {levels : Nat} {m : ExportMessage}
    (h : ∀ j ∈ m.attachments, j.IsReadable levels) :
    ExportMessage.decoder.Reads (levels + 2) m.toNode m :=
  .record (.cons (.optionalString m.id) (by simp)
    (.cons (.optionalString m.sender) (by simp)
      (.cons (.string m.text) (by simp)
        (.cons (.optionalString m.createdAt) (by simp)
          (.cons (.list fun j hj => .value (h j hj)) (by simp) .nil))))) _ _

/-- A conversation in full is decoded from its node as it was, with four levels around its
attachments. -/
theorem FullConversation.reads {levels : Nat} {c : FullConversation}
    (h : ∀ j ∈ c.attachments, j.IsReadable levels) :
    FullConversation.decoder.Reads (levels + 4) c.toNode c :=
  have hmessages : ∀ m ∈ c.messages, ExportMessage.decoder.Reads (levels + 2) m.toNode m :=
    fun m hm => ExportMessage.reads fun j hj => h j (List.mem_flatMap_of_mem hm hj)
  .record (.cons (.string c.id) (by simp)
    (.cons (.string c.name) (by simp)
      (.cons (.optionalString c.createdAt) (by simp)
        (.cons (.optionalString c.updatedAt) (by simp)
          (.cons (.optionalString c.model) (by simp)
            (.cons (.list hmessages) (by simp) .nil)))))) _ _

/-- What a listing tells of a conversation is decoded from its node as it was. -/
theorem ListedConversation.reads (c : ListedConversation) :
    ListedConversation.decoder.Reads 1 c.toNode c :=
  .record (.cons (.string c.id) (by simp)
    (.cons (.string c.name) (by simp)
      (.cons (.timestamp c.updatedAt) (by simp) .nil))) _ _

/-! ## Levels -/

/-- A text that may be missing opens no level. -/
theorem depth_ofOption_str (s : Option String) : (Node.ofOption .str s).depth = 0 := by
  cases s <;> rfl

/-- A message opens two levels around its attachments. -/
theorem ExportMessage.depth_le_iff {levels : Nat} {m : ExportMessage} :
    m.toNode.depth ≤ levels + 2 ↔ ∀ j ∈ m.attachments, j.toNode.depth ≤ levels := by
  simp [ExportMessage.toNode, Node.depth, Node.memberDepths, depth_ofOption_str,
    Node.depths_le_iff]

/-- A conversation opens four levels around its attachments. -/
theorem FullConversation.depth_le_iff {levels : Nat} {c : FullConversation} :
    c.toNode.depth ≤ levels + 4 ↔ ∀ j ∈ c.attachments, j.toNode.depth ≤ levels := by
  have hmessages : Node.depths (c.messages.map (·.toNode)) ≤ levels + 2 ↔
      ∀ j ∈ c.attachments, j.toNode.depth ≤ levels := by
    simp only [Node.depths_le_iff, List.forall_mem_map, ExportMessage.depth_le_iff, attachments,
      List.forall_mem_flatMap]
  rw [← hmessages]
  simp [FullConversation.toNode, Node.depth, Node.memberDepths, depth_ofOption_str]

/-- So does any entry. -/
theorem ExportEntry.depth_le_iff {levels : Nat} {e : ExportEntry} :
    e.toNode.depth ≤ levels + 4 ↔ ∀ j ∈ e.attachments, j.toNode.depth ≤ levels := by
  cases e with
  | full c => exact FullConversation.depth_le_iff
  | listed c =>
    simp [attachments, toNode, ListedConversation.toNode, Node.depth, Node.memberDepths]
  | failed id error => simp [attachments, toNode, Node.depth, Node.memberDepths]

/-! ## Entries -/

namespace ExportEntry

/-- What the listing tells is not a conversation in full: there are no messages. -/
theorem full_of_listed (c : ListedConversation) :
    FullConversation.decoder .value c.toNode.toRaw = .error (.missingField "chat_messages") := rfl

/-- An error is neither: there is no name. -/
theorem full_of_failed (id error : String) :
    FullConversation.decoder .value (failed id error).toNode.toRaw =
      .error (.missingField "name") := rfl

/-- An error is not what a listing tells either. -/
theorem listed_of_failed (id error : String) :
    ListedConversation.decoder .value (failed id error).toNode.toRaw =
      .error (.missingField "name") := rfl

/-- An error is decoded as one. -/
theorem failed_of_failed (id error : String) :
    failedDecoder .value (failed id error).toNode.toRaw = .ok (failed id error) := rfl

/-- An entry is exact if its attachments are. -/
theorem exact_of_attachments {levels : Nat} {e : ExportEntry}
    (h : ∀ j ∈ e.attachments, j.IsReadable levels) : e.toNode.IsExact := by
  cases e with
  | full c => exact (FullConversation.reads h).exact
  | listed c => exact c.reads.exact
  | failed id error => exact ⟨trivial, trivial, trivial⟩

/-- Every entry is decoded as the kind that it is. -/
theorem reads {levels : Nat} {e : ExportEntry} (h : ∀ j ∈ e.attachments, j.IsReadable levels) :
    decoder.Reads (levels + 4) e.toNode e where
  exact := exact_of_attachments h
  ok o ho := by
    have hdepth := ExportEntry.depth_le_iff.mpr fun j hj => (h j hj).depth_le
    have hvalue := Node.toValue_toRaw e.toNode (ho.mono hdepth)
    simp only [decoder, hvalue, bind, Except.bind]
    cases e with
    | full c => rw [toNode, (FullConversation.reads h).ok .value trivial]
    | listed c => rw [toNode, full_of_listed, c.reads.ok .value trivial]
    | failed id error => rw [full_of_failed, listed_of_failed, failed_of_failed]

/-- An entry in which too many levels are opened is refused for them. -/
theorem too_deep {levels room : Nat} {e : ExportEntry} {j : Json} (hj : j ∈ e.attachments)
    (hdepth : levels < j.toNode.depth) (hroom : 0 < room) (hlevels : room ≤ levels + 5) :
    decoder (.text room) e.toNode.toRaw = .error .tooDeep := by
  have hdeep : room ≤ e.toNode.depth := by
    by_contra hshallow
    have hle : e.toNode.depth ≤ levels + 4 := by omega
    have := ExportEntry.depth_le_iff.mp hle j hj
    omega
  simp only [decoder, Node.toValue_of_too_deep _ hroom hdeep, bind, Except.bind]

end ExportEntry

/-! ## Documents -/

/-- The kind of a document is decoded from its name. -/
theorem ExportKind.reads {depth : Nat} (k : ExportKind) :
    ExportKind.decoder.Reads depth (.str k.name) k where
  exact := trivial
  ok _ _ := by cases k <;> rfl

namespace ExportDocument

/-- A document is decoded from its node as it was, with six levels around its attachments. -/
theorem reads {levels : Nat} {d : ExportDocument} (htotal : d.total ≤ Word.maxNat 64)
    (h : ∀ j ∈ d.attachments, j.IsReadable levels) :
    decoder.Reads (levels + 6) d.toNode d :=
  have hentries : ∀ e ∈ d.entries, ExportEntry.decoder.Reads (levels + 4) e.toNode e :=
    fun e he => ExportEntry.reads fun j hj => h j (List.mem_flatMap_of_mem he hj)
  .record (.cons (.timestamp d.exportedAt) (by simp)
    (.cons (.string d.version) (by simp)
      (.cons d.kind.reads (by simp)
        (.cons (.count htotal) (by simp)
          (.cons (.list hentries) (by simp) .nil))))) _ _

/-- A document whose entries have a fault has it. -/
theorem decoder_of_fault {d : ExportDocument} (htotal : d.total ≤ Word.maxNat 64) {f : Fault}
    (hentries : ExportEntry.decoder.items (.text 126)
      (Node.toRaws (d.entries.map (·.toNode))) = .error f) :
    decoder (.text nestingLimit) d.toNode.toRaw = .error f :=
  -- the document and the list of its entries open a level each
  have hlist : ExportEntry.decoder.list (.text 127)
      (Node.arr (d.entries.map (·.toNode))).toRaw = .error f := Decoder.list_of_fault rfl hentries
  have hroom : (Origin.text 127).Admits 0 := Nat.succ_pos 126
  Decoder.record_of_breaks rfl
    (.there (.timestamp d.exportedAt) hroom (by simp)
      (.there (.string d.version) hroom (by simp)
        (.there d.kind.reads hroom (by simp)
          (.there (.count htotal) hroom (by simp) (.here hlist))))) _ _

/-- A document that can be written as it is: its numbers are integers of 64 bits, and the members
of objects in its attachments are in order. -/
structure IsExact (d : ExportDocument) : Prop where
  total_le : d.total ≤ Word.maxNat 64
  ordered : ∀ j ∈ d.attachments, j.IsOrdered
  exact : ∀ j ∈ d.attachments, j.toNode.IsExact

/-- Attachments of a document that can be written are read if they are not too deep. -/
theorem IsExact.isReadable {d : ExportDocument} (hd : d.IsExact) {levels : Nat}
    (h : ∀ j ∈ d.attachments, j.toNode.depth ≤ levels) :
    ∀ j ∈ d.attachments, j.IsReadable levels :=
  fun j hj => ⟨hd.ordered j hj, hd.exact j hj, h j hj⟩

/-- The node of a document that can be written is exact. -/
theorem IsExact.toNode_exact {d : ExportDocument} (hd : d.IsExact) : d.toNode.IsExact := by
  have hbound := Node.depths_le_iff.mp (Nat.le_refl (Node.depths (d.attachments.map Json.toNode)))
  exact (reads hd.total_le (hd.isReadable (List.forall_mem_map.mp hbound))).exact

/-- A document with an attachment of more than 121 levels is refused for its depth. -/
theorem too_deep {d : ExportDocument} (hd : d.IsExact) {j : Json} (hj : j ∈ d.attachments)
    (hdepth : 121 < j.toNode.depth) :
    decoder (.text nestingLimit) d.toNode.toRaw = .error .tooDeep := by
  -- the first entry with a fault decides, so that the entries before it have to be read
  refine decoder_of_fault hd.total_le (Decoder.items_of_fault (fun e he => ?_) ?_)
  · by_cases hshallow : ∀ i ∈ e.attachments, i.toNode.depth ≤ 121
    · have hreadable : ∀ i ∈ e.attachments, i.IsReadable 121 := fun i hi =>
        have hmem := List.mem_flatMap_of_mem he hi
        ⟨hd.ordered i hmem, hd.exact i hmem, hshallow i hi⟩
      exact .inl ((ExportEntry.reads hreadable).ok _ (Nat.lt_succ_self 125))
    · simp only [not_forall, Nat.not_le] at hshallow
      obtain ⟨i, hi, hdeep⟩ := hshallow
      exact .inr (ExportEntry.too_deep hi hdeep (by decide) (by decide))
  · obtain ⟨e, he, hje⟩ := List.mem_flatMap.mp hj
    exact ⟨e, he, ExportEntry.too_deep hje hdepth (by decide) (by decide)⟩

/-- A document is decoded from its texts as it was written if six more levels than its attachments
have are admitted. -/
theorem IsExact.decodeText {d : ExportDocument} (hd : d.IsExact)
    (h : ∀ j ∈ d.attachments, j.toNode.depth + 6 < nestingLimit) :
    Json.decodeText decoder d.toNode.toText = .ok d ∧
      Json.decodeText decoder d.toNode.toPrettyText = .ok d := by
  have hlimit : nestingLimit = 122 + 6 := rfl
  have hreadable : ∀ j ∈ d.attachments, j.IsReadable 121 := hd.isReadable fun j hj => by
    have hroom := h j hj
    omega
  exact (reads hd.total_le hreadable).decodeText (by decide)

/-- A document is decoded from its texts as it was written if six more levels than its attachments
have are admitted; otherwise the texts are refused. -/
theorem decode_written {d : ExportDocument} (hd : d.IsExact) :
    ((∀ j ∈ d.attachments, j.toNode.depth + 6 < nestingLimit) →
        decodeText decoder d.toNode.toText = .ok d ∧
        decodeText decoder d.toNode.toPrettyText = .ok d) ∧
      ((∃ j ∈ d.attachments, nestingLimit ≤ j.toNode.depth + 6) →
        decodeText decoder d.toNode.toText = .error .tooDeep ∧
        decodeText decoder d.toNode.toPrettyText = .error .tooDeep) := by
  have hlimit : nestingLimit = 122 + 6 := rfl
  constructor
  · exact hd.decodeText
  · rintro ⟨j, hj, hdeep⟩
    have hfault := too_deep hd hj (by omega)
    rw [decodeText_toText hd.toNode_exact, decodeText_toPrettyText hd.toNode_exact]
    exact ⟨hfault, hfault⟩

/-- Null in some arrays. -/
def nested : Nat → Json
  | 0 => .null
  | n + 1 => .arr [nested n]

/-- Null in arrays is read. -/
theorem isReadable_nested (n : Nat) : (nested n).IsReadable n := by
  induction n with
  | zero => exact ⟨trivial, trivial, Nat.le_refl 0⟩
  | succ n ih => exact isReadable_arr_iff.mpr fun j hj => List.mem_singleton.mp hj ▸ ih

/-- Every array is a level. -/
theorem depth_nested (n : Nat) : (nested n).toNode.depth = n := by
  induction n with
  | zero => rfl
  | succ n ih => simp [nested, Json.toNode, Json.toNodes, Node.depth, Node.depths, ih]

/-- A conversation with one message that has a nested attachment. -/
def withNested (n : Nat) : ExportEntry :=
  .full ⟨"a", "A", none, some "", none, [⟨none, none, "text", none, [nested n]⟩]⟩

/-- An attachment that is no deeper than a text may be can be too deep within a document. -/
theorem not_decode_of_deep_attachment :
    let d := ofEntries .epoch .full [withNested 122]
    d.total ≤ Word.maxNat 64 ∧ (∀ j ∈ d.attachments, j.IsReadable (nestingLimit - 1)) ∧
      decodeText decoder d.toNode.toText ≠ .ok d := by
  intro d
  have hd : ∀ j ∈ d.attachments, j = nested 122 := fun j hj => List.mem_singleton.mp hj
  have hreadable : ∀ j ∈ d.attachments, j.IsReadable 122 := fun j hj =>
    hd j hj ▸ isReadable_nested 122
  have hexact : d.IsExact :=
    ⟨by decide, fun j hj => (hreadable j hj).ordered, fun j hj => (hreadable j hj).exact⟩
  refine ⟨hexact.total_le, fun j hj => ?_, ?_⟩
  · exact ⟨hexact.ordered j hj, hexact.exact j hj, (hreadable j hj).depth_le.trans (by decide)⟩
  · have hdeep : 121 < (nested 122).toNode.depth := by
      rw [depth_nested]
      decide
    have hfault := too_deep hexact List.mem_cons_self hdeep
    rw [decodeText_toText hexact.toNode_exact, hfault]
    intro hok
    cases hok

/-- A document of all three kinds of entries, one with as many levels as are admitted, is decoded
from its text. -/
theorem decode_written_mixture :
    let d := ofEntries .epoch .full
      [withNested 121, .listed ⟨"b", "B", .epoch⟩, .failed "c" "error", withNested 0]
    d.IsExact ∧ (∀ j ∈ d.attachments, j.toNode.depth + 6 < nestingLimit) ∧
      decodeText decoder d.toNode.toText = .ok d := by
  intro d
  have hd : ∀ j ∈ d.attachments, j = nested 121 ∨ j = nested 0 := fun j hj => by
    simpa [d, ofEntries, attachments, ExportEntry.attachments, withNested,
      FullConversation.attachments] using hj
  have hreadable : ∀ j ∈ d.attachments, j.IsReadable 121 := by
    intro j hj
    rcases hd j hj with rfl | rfl
    · exact isReadable_nested 121
    · exact ⟨trivial, trivial, Nat.zero_le 121⟩
  have hexact : d.IsExact :=
    ⟨by decide, fun j hj => (hreadable j hj).ordered, fun j hj => (hreadable j hj).exact⟩
  have hroom : ∀ j ∈ d.attachments, j.toNode.depth + 6 < nestingLimit := fun j hj =>
    Nat.lt_succ_of_le (Nat.add_le_add_right (hreadable j hj).depth_le 6)
  exact ⟨hexact, hroom, ((decode_written hexact).1 hroom).1⟩

end ExportDocument

end ChatArchive
