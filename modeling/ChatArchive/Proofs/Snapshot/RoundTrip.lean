import ChatArchive.Proofs.Calendar.RoundTrip
import ChatArchive.Proofs.Files.Write
import ChatArchive.Proofs.Json.Decode
import ChatArchive.Proofs.Snapshot.Content
import ChatArchive.Proofs.Store.Restore
import ChatArchive.Snapshot.Cache
import Mathlib.Data.List.Forall2

/-!
# Saving and restoring

What is saved is decoded again (`MetadataSnapshot.reads`, `ContentSnapshot.reads`), and the two
files of the cache are both there after a save (`exists_save`).  So a restore puts every record
back as the listing told it, and the contents of the newest indexed records with them, as many as
the settings allow (`restore_save`).
-/

namespace ChatArchive

open Json

/-! ## Decoding snapshots -/

/-- A time is decoded from its text as it was. -/
theorem Json.Decoder.Reads.timestamp {depth : Nat} (t : Timestamp) :
    Decoder.timestamp.Reads depth (.str t.toText) t where
  exact := trivial
  ok _ _ := by simp only [Node.toRaw, Decoder.timestamp, Calendar.readTimestamp_toText]

/-- An entry of metadata is decoded from its node as it was. -/
theorem CachedRecord.reads (c : CachedRecord) : CachedRecord.decoder.Reads 1 c.toNode c :=
  .record (.cons (.string c.id) (by simp)
    (.cons (.string c.title) (by simp)
      (.cons (.timestamp c.updatedAt) (by simp) .nil))) _ _

/-- So is a snapshot of metadata. -/
theorem MetadataSnapshot.reads {s : MetadataSnapshot} (hversion : s.version ≤ Word.maxNat 32) :
    MetadataSnapshot.decoder.Reads 3 s.toNode s :=
  .record (.cons (.nat32 hversion) (by simp)
    (.cons (.timestamp s.savedAt) (by simp)
      (.cons (.list fun c _ => c.reads) (by simp) .nil))) _ _

/-- So is an entry of contents. -/
theorem ContentEntry.reads (e : ContentEntry) : ContentEntry.decoder.Reads 1 e.toNode e :=
  .record (.cons (.string e.id) (by simp)
    (.cons (.timestamp e.updatedAt) (by simp)
      (.cons (.string e.content) (by simp) .nil))) _ _

/-- So is a snapshot of contents. -/
theorem ContentSnapshot.reads {s : ContentSnapshot} (hversion : s.version ≤ Word.maxNat 32) :
    ContentSnapshot.decoder.Reads 3 s.toNode s :=
  .record (.cons (.nat32 hversion) (by simp)
    (.cons (.list fun e _ => e.reads) (by simp) .nil)) _ _

namespace Cache

open Files (IsFileName Path)

/-! ## The files of the cache -/

/-- The names of the two files. -/
def fileNames : List String := ["conversations.json", "content-index.json"]

/-- Both are names of files. -/
theorem isFileName : ∀ name ∈ fileNames, IsFileName name := by
  intro name hname
  simp only [fileNames, List.mem_cons, List.not_mem_nil, or_false] at hname
  obtain rfl | rfl := hname
  all_goals exact ⟨by decide, by decide, by decide, by decide, by decide, by decide⟩

/-- A snapshot is loaded from the text that was written of it. -/
theorem load_of_reads {α : Type} {d : Decoder α} {depth : Nat} {n : Node} {a : α}
    (h : d.Reads depth n a) (hdepth : depth < nestingLimit) {fs : Files} {path : Path}
    (htext : fs.readText path = .text n.toPrettyText) : load d fs path = .ok (some a) := by
  simp only [load, htext, (h.decodeText hdepth).2]
  rfl

/-- Both snapshots of a store are written, and can be read then. -/
theorem exists_save {fs : Files} (hfs : fs.IsTree) {folder : Path}
    (hfolder : fs.CanHold folder fileNames) (settings : CacheSettings) (now : Timestamp)
    (s : Store) :
    ∃ files : Files, save fs folder settings now s = (files, .ok ()) ∧
      files.readText (metadataPath folder) =
        .text (snapshots settings now s).1.toNode.toPrettyText ∧
      files.readText (contentPath folder) =
        .text (snapshots settings now s).2.toNode.toPrettyText := by
  have hmetadata : "conversations.json" ∈ fileNames := List.mem_cons_self
  have hcontent : "content-index.json" ∈ fileNames := by simp [fileNames]
  obtain ⟨ready, d, hready, hmade⟩ := hfolder.exists_hasRoom hfs
  obtain ⟨first, hfirst, hroom, hthere, -⟩ := hready.write hmetadata
    (isFileName _ hmetadata) (snapshots settings now s).1.toNode.toPrettyText.toUTF8
  obtain ⟨files, hsecond, hroom', hthere', hkept⟩ := hroom.write hcontent
    (isFileName _ hcontent) (snapshots settings now s).2.toNode.toPrettyText.toUTF8
  refine ⟨files, ?_, ?_, ?_⟩
  · rw [← hmade _ _ (isFileName _ hmetadata)] at hfirst
    simp only [save, Files.writeJson, Files.writeText, metadataPath, contentPath, hfirst, hsecond]
  · -- the second write leaves the first file
    refine hroom'.readText (isFileName _ hmetadata) ?_
    rw [hkept _ (by simp) (by simp), hthere]
  · exact hroom'.readText (isFileName _ hcontent) hthere'

/-! ## Putting records back -/

/-- A record as it comes back: as the listing told it, and with its content if that was kept. -/
structure IsPutBack (kept : List Record) (r back : Record) : Prop where
  id : back.id = r.id
  title : back.title = r.title
  updatedAt : back.updatedAt = r.updatedAt
  content : r ∈ kept → back.content = r.content
  isIndexed : back.isIndexed = true ↔ r ∈ kept
  selected : back.selected = false
  hit : back.hit = none

/-- The lowercase that is stored with a text is worked out anew as it was. -/
theorem ofString_text (t : SearchText) : SearchText.ofString t.text = t := by
  obtain ⟨text, lowered, rfl⟩ := t
  rfl

/-- A record of which the listing is known. -/
def listed (r : Record) : Record := (CachedRecord.ofRecord r).toRecord

/-- The identifiers and contents of some records. -/
def contentsOfRecords (kept : List Record) : List (String × String) :=
  kept.map fun r => (r.id, r.contentText?.getD "")

/-- The contents have the identifiers of their records. -/
theorem map_fst_contentsOfRecords (kept : List Record) :
    (contentsOfRecords kept).map (·.1) = kept.map Record.id := by
  simp [contentsOfRecords]

/-- A record that was kept has its own content. -/
theorem lookup_of_mem {kept : List Record} (hkept : (kept.map Record.id).Nodup) {r : Record}
    (hr : r ∈ kept) : (contentsOfRecords kept).lookup r.id = some (r.contentText?.getD "") := by
  have hnodup : ((contentsOfRecords kept).map (·.1)).Nodup := by
    rw [map_fst_contentsOfRecords]
    exact hkept
  exact (lookup_eq_some_iff_of_nodup hnodup).mpr (List.mem_map_of_mem hr)

/-- An indexed record gets its content back. -/
theorem exists_setContent_listed {r : Record} (hr : r.isIndexed = true) :
    ∃ c, r.content = some c ∧ r.contentText?.getD "" ≠ "" ∧
      (listed r).setContent (r.contentText?.getD "") =
        { listed r with content := some c, isIndexed := true, isIndexed_eq := rfl } := by
  rw [r.isIndexed_eq] at hr
  obtain ⟨c, hc⟩ := Option.isSome_iff_exists.mp hr
  have htext : r.contentText?.getD "" = c.val.text := by
    rw [Record.contentText?, hc]
    rfl
  have hof : Record.Content.ofString? c.val.text = some c := by
    rw [Record.Content.ofString?, dif_neg c.property]
    exact congrArg some (Subtype.ext (ofString_text c.val))
  refine ⟨c, hc, htext ▸ c.property, ?_⟩
  rw [htext, Record.setContent, hof]

/-- A record is put back with its content if that is one of those that were kept. -/
theorem isPutBack_fill {rs kept : List Record} (hrs : (rs.map Record.id).Nodup)
    (hkept : (kept.map Record.id).Nodup) (hsub : ∀ k ∈ kept, k ∈ rs ∧ k.isIndexed = true)
    {r : Record} (hr : r ∈ rs) :
    IsPutBack kept r ((listed r).fill (contentsOfRecords kept)) := by
  have htitle : (listed r).title = r.title := ofString_text r.title
  have hid : (listed r).id = r.id := rfl
  unfold Record.fill
  rw [hid]
  by_cases hmem : r ∈ kept
  · obtain ⟨c, hc, -, hset⟩ := exists_setContent_listed (hsub r hmem).2
    rw [lookup_of_mem hkept hmem]
    simp only [hset]
    exact ⟨rfl, htitle, rfl, fun _ => hc.symm, iff_of_true rfl hmem, rfl, rfl⟩
  · -- no other record has its identifier
    have hnone : (contentsOfRecords kept).lookup r.id = none := by
      rw [List.lookup_eq_none_iff]
      intro c hcontent
      obtain ⟨k, hk, rfl⟩ := List.mem_map.mp hcontent
      rw [bne_iff_ne]
      intro heq
      exact hmem (List.inj_on_of_nodup_map hrs hr (hsub k hk).1 heq ▸ hk)
    rw [hnone]
    exact ⟨rfl, htitle, rfl, fun h => absurd h hmem, iff_of_false Bool.false_ne_true hmem, rfl, rfl⟩

/-- Every listed record comes back, with its content if that was kept. -/
theorem records_mergeContent_listed {rs kept : List Record} (hrs : (rs.map Record.id).Nodup)
    (hkept : (kept.map Record.id).Nodup) (hsub : ∀ k ∈ kept, k ∈ rs ∧ k.isIndexed = true) :
    ((Store.ofRecords (rs.map listed)).mergeContent (contentsOfRecords kept)).1.records =
        rs.map (fun r => (listed r).fill (contentsOfRecords kept)) ∧
      ((Store.ofRecords (rs.map listed)).mergeContent (contentsOfRecords kept)).2 =
        kept.length := by
  have hids : (rs.map listed).map Record.id = rs.map Record.id := by
    rw [List.map_map]
    rfl
  have hhit : ∀ r ∈ rs.map listed, r.hit = none := by
    intro r hr
    obtain ⟨before, -, rfl⟩ := List.mem_map.mp hr
    rfl
  have hfresh : (Store.ofRecords (rs.map listed)).records = rs.map listed :=
    Store.records_ofRecords (hids ▸ hrs) hhit
  have hknown : ∀ c ∈ contentsOfRecords kept,
      c.2 ≠ "" ∧ c.1 ∈ (Store.ofRecords (rs.map listed)).ids := by
    intro c hc
    obtain ⟨k, hk, rfl⟩ := List.mem_map.mp hc
    obtain ⟨-, -, htext, -⟩ := exists_setContent_listed (hsub k hk).2
    refine ⟨htext, ?_⟩
    rw [Store.ids, hfresh, hids]
    exact List.mem_map_of_mem (hsub k hk).1
  have hnodup : ((contentsOfRecords kept).map (·.1)).Nodup := by
    rw [map_fst_contentsOfRecords]
    exact hkept
  obtain ⟨hrecords, hcount⟩ := Store.mergeContent_eq (Store.indexed_ofRecords _)
    (Store.criteria_ofRecords _) (by rw [hfresh]; exact hhit) hnodup hknown
  rw [hrecords, hcount, hfresh, List.map_map, contentsOfRecords, List.length_map]
  exact ⟨rfl, rfl⟩

/-- As many records are indexed again as contents were kept. -/
theorem countP_isIndexed_fill {rs kept : List Record} (hrs : (rs.map Record.id).Nodup)
    (hkept : (kept.map Record.id).Nodup) (hsub : ∀ k ∈ kept, k ∈ rs ∧ k.isIndexed = true) :
    (rs.map fun r => (listed r).fill (contentsOfRecords kept)).countP (·.isIndexed) =
      kept.length := by
  have hperm : (rs.filter fun r => ((listed r).fill (contentsOfRecords kept)).isIndexed).Perm
      kept := by
    rw [List.perm_ext_iff_of_nodup (hrs.of_map.filter _) hkept.of_map]
    intro r
    rw [List.mem_filter]
    constructor
    · rintro ⟨hr, hindexed⟩
      exact (isPutBack_fill hrs hkept hsub hr).isIndexed.mp hindexed
    · intro hr
      exact ⟨(hsub r hr).1, (isPutBack_fill hrs hkept hsub (hsub r hr).1).isIndexed.mpr hr⟩
  rw [List.countP_map, List.countP_eq_length_filter]
  exact hperm.length_eq

/-! ## Restoring -/

/-- The version is a number of 32 bits. -/
theorem version_le : Snapshot.version ≤ Word.maxNat 32 := by decide

/-- The metadata that were saved are loaded as long as they are not too old. -/
theorem loadMetadata_ofRecords {files : Files} {folder : Path} {rs : List Record}
    {maxAgeHours : Int} {saved now : Timestamp}
    (htext : files.readText (metadataPath folder) =
      .text (MetadataSnapshot.ofRecords saved rs).toNode.toPrettyText)
    (hhours : Snapshot.isMeasurable maxAgeHours = true)
    (hage : now.since saved ≤ maxAgeHours * 3600 * Calendar.nanosPerSecond) :
    loadMetadata files folder maxAgeHours now =
      .ok (some (MetadataSnapshot.ofRecords saved rs)) := by
  have hversion : (MetadataSnapshot.ofRecords saved rs).version = Snapshot.version := rfl
  have hload := load_of_reads (MetadataSnapshot.reads (hversion ▸ version_le)) (by decide) htext
  have hfresh : (MetadataSnapshot.ofRecords saved rs).isExpired? maxAgeHours now = some false := by
    rw [MetadataSnapshot.isExpired?, if_pos hhours]
    exact congrArg some (decide_eq_false (Int.not_lt.mpr hage))
  simp only [loadMetadata, hload, hversion, hfresh, bind, Except.bind, ne_eq, not_true_eq_false,
    if_false, Bool.false_eq_true]

/-- The contents that were saved are loaded. -/
theorem loadContent_ofRecords {files : Files} {folder : Path} {rs : List Record} {cap : Nat}
    (htext : files.readText (contentPath folder) =
      .text (ContentSnapshot.ofRecords cap rs).toNode.toPrettyText) :
    loadContent files folder = .ok (some (ContentSnapshot.ofRecords cap rs)) := by
  have hversion : (ContentSnapshot.ofRecords cap rs).version = Snapshot.version := rfl
  have hload := load_of_reads (ContentSnapshot.reads (hversion ▸ version_le)) (by decide) htext
  simp only [loadContent, hload, bind, Except.bind]
  rfl

/-- What was saved is put back. -/
theorem restore_save {s : Store} (hs : s.Reachable) {fs : Files} (hfs : fs.IsTree) {folder : Path}
    (hfolder : fs.CanHold folder fileNames) {settings : CacheSettings} {saved restored : Timestamp}
    (hhours : Snapshot.isMeasurable settings.maxAgeHours = true)
    (hage : restored.since saved ≤ settings.maxAgeHours * 3600 * Calendar.nanosPerSecond)
    (target : Store) :
    ∃ (files : Files) (back : Store) (ranked : List Record),
      save fs folder settings saved s = (files, .ok ()) ∧
      restore files folder settings restored target =
        (back, .ok ⟨back.size, back.stats.indexed⟩) ∧
      IsNewestFirst s.records ranked ∧
      List.Forall₂ (IsPutBack (ranked.take settings.contentCap)) s.records back.records ∧
      back.criteria = Criteria.empty ∧ back.order = .newest ∧ back.Rebuilt := by
  obtain ⟨files, hsave, hmetadata, hcontent⟩ := exists_save hfs hfolder settings saved s
  have hids : (s.records.map Record.id).Nodup := hs.consistent.indexed.nodup
  have hranked := isNewestFirst_mergeSort s.records
  generalize (s.records.filter (·.isIndexed)).mergeSort SortOrder.newest.le = ranked at hranked
  let kept : List Record := ranked.take settings.contentCap
  let back : Store :=
    ((Store.ofRecords (s.records.map listed)).mergeContent (contentsOfRecords kept)).1
  have hkept : (kept.map Record.id).Nodup :=
    (hranked.nodup_ids hids).sublist ((List.take_sublist _ _).map _)
  have hsub : ∀ k ∈ kept, k ∈ s.records ∧ k.isIndexed = true :=
    fun k hk => hranked.mem (List.mem_of_mem_take hk)
  have hcontents : contentsOf (ContentSnapshot.ofRecords settings.contentCap s.records) =
      contentsOfRecords kept := by
    rw [contentsOf, ContentSnapshot.entries_ofRecords hranked hids, List.map_map]
    rfl
  have hlisted : (MetadataSnapshot.ofRecords saved s.records).toRecords =
      s.records.map listed := List.map_map
  obtain ⟨hrecords, hcount⟩ := records_mergeContent_listed hids hkept hsub
  have hindexed : back.stats.indexed = kept.length := by
    show back.records.countP (·.isIndexed) = kept.length
    rw [hrecords]
    exact countP_isIndexed_fill hids hkept hsub
  refine ⟨files, back, ranked, hsave, ?_, hranked, ?_, ?_, ?_, ?_⟩
  · simp only [restore, loadMetadata_ofRecords hmetadata hhours hage,
      loadContent_ofRecords hcontent, hlisted, hcontents, hindexed]
    rw [hcount]
  · rw [hrecords, List.forall₂_map_right_iff, List.forall₂_same]
    exact fun r hr => isPutBack_fill hids hkept hsub hr
  · exact (Store.criteria_mergeContent _ _).trans (Store.criteria_ofRecords _)
  · exact (Store.order_mergeContent _ _).trans (Store.order_ofRecords _)
  · exact .change (.mergeContent _) (.ofRecords _) trivial rfl

/-- Two indexed records with one time, of which one content is kept, and a folder that is not there
yet. -/
theorem restore_save_ties :
    let r (id title : String) : Record := Record.ofListing id title Timestamp.epoch
    let s := (Store.Change.mergeContent [("b", "Text of b"), ("a", "Text of a")]).apply
      (Store.ofRecords [r "a" "One", r "b" "Two"])
    let fs : Files := ⟨[], []⟩
    let settings : CacheSettings := ⟨24, 1⟩
    s.Reachable ∧ fs.IsTree ∧ fs.CanHold "cache/chat" fileNames ∧
      Snapshot.isMeasurable settings.maxAgeHours = true ∧
      Timestamp.epoch.since Timestamp.epoch ≤
        settings.maxAgeHours * 3600 * Calendar.nanosPerSecond ∧
      ∃ (files : Files) (back : Store) (ranked : List Record),
        save fs "cache/chat" settings Timestamp.epoch s = (files, .ok ()) ∧
        restore files "cache/chat" settings Timestamp.epoch Store.empty =
          (back, .ok ⟨back.size, back.stats.indexed⟩) ∧
        IsNewestFirst s.records ranked ∧
        List.Forall₂ (IsPutBack (ranked.take 1)) s.records back.records ∧
        back.criteria = Criteria.empty ∧ back.order = .newest ∧ back.Rebuilt := by
  intro r s fs settings
  have hs : s.Reachable := .change _ (.ofRecords _) trivial
  have hfs : fs.IsTree := Files.isTree_root
  have hfolder : fs.CanHold "cache/chat" fileNames :=
    ⟨_, _, rfl, by decide⟩
  have hhours : Snapshot.isMeasurable settings.maxAgeHours = true := by decide
  have hage : Timestamp.epoch.since Timestamp.epoch ≤
      settings.maxAgeHours * 3600 * Calendar.nanosPerSecond := by decide
  exact ⟨hs, hfs, hfolder, hhours, hage, restore_save hs hfs hfolder hhours hage Store.empty⟩

end Cache

end ChatArchive
