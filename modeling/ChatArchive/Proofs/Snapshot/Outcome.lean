import ChatArchive.Proofs.Snapshot.Failure

/-!
# What a restore comes to

A restore succeeds unless it comes to a file that is there and holds no text
(`restore_outcome`).  Without current metadata the store stays as it was.  With them it holds the
last entry of each identifier, and of the contents, if these are current, the last that is not
empty.
-/

namespace ChatArchive.Cache

open Json
open Files (Path)

variable {fs : Files} {folder : Path} {maxAgeHours : Int} {now : Timestamp}

/-! ## Files that hold no text -/

/-- A path cannot be read if it leads to a folder or to bytes that are no text. -/
theorem readText_eq_unreadable_iff {path : Path} : fs.readText path = .unreadable ↔
    fs.find? path = some .folder ∨
      ∃ bytes, fs.find? path = some (.file bytes) ∧ String.fromUTF8? bytes = none := by
  unfold Files.readText
  cases fs.find? path with
  | none => simp
  | some e =>
    cases e with
    | folder => simp
    | file bytes => cases h : String.fromUTF8? bytes <;> simp [h]

/-! ## Snapshots of use -/

/-- The contents that are stored in a folder, if they are of use. -/
structure IsCurrentContent (fs : Files) (folder : Path) (c : ContentSnapshot) : Prop where
  stored : ∃ text, fs.readText (contentPath folder) = .text text ∧
    decodeText ContentSnapshot.decoder text = .ok c
  version : c.version = Snapshot.version

/-- Metadata are loaded exactly if they are current. -/
theorem loadMetadata_eq_some_iff {m : MetadataSnapshot} :
    loadMetadata fs folder maxAgeHours now = .ok (some m) ↔
      IsCurrent fs folder maxAgeHours now m := by
  constructor
  · intro h
    rcases loadMetadata_cases fs folder maxAgeHours now with
      ⟨-, hload⟩ | ⟨-, hload⟩ | hload | ⟨m', hm', hload⟩ <;> rw [hload] at h
    · cases h
    · cases h
    · cases h
    · obtain rfl : m' = m := by simpa using h
      exact hm'
  · rintro ⟨hstored, hversion, hfresh⟩
    have hload := load_eq_some_iff.mpr hstored
    simp only [loadMetadata, hload, hversion, hfresh, bind, Except.bind, ne_eq, not_true_eq_false,
      if_false, Bool.false_eq_true]

/-- So are contents. -/
theorem loadContent_eq_some_iff {c : ContentSnapshot} :
    loadContent fs folder = .ok (some c) ↔ IsCurrentContent fs folder c := by
  have hload : load ContentSnapshot.decoder fs (contentPath folder) = .ok (some c) ↔ _ :=
    load_eq_some_iff
  constructor
  · intro h
    unfold loadContent at h
    cases hloaded : load ContentSnapshot.decoder fs (contentPath folder) with
    | error f => simp [hloaded, bind, Except.bind] at h
    | ok loaded =>
      simp only [hloaded, bind, Except.bind, Except.ok.injEq, Option.filter_eq_some_iff,
        beq_iff_eq] at h
      exact ⟨hload.mp (by rw [hloaded, h.1]), h.2⟩
  · rintro ⟨hstored, hversion⟩
    simp [loadContent, hload.mpr hstored, hversion, bind, Except.bind]

/-! ## The restored store -/

/-- A store that was made of metadata and contents: it has the last entry of each identifier, with
the last of its contents that is not empty, and no filter. -/
structure IsRestored (m : MetadataSnapshot) (contents : List (String × String)) (s : Store) :
    Prop where
  records : s.records = (lastOfEach CachedRecord.id m.records).map fun e =>
    e.toRecord.fill (lastTexts contents)
  criteria : s.criteria = Criteria.empty
  order : s.order = .newest
  rebuilt : s.Rebuilt

/-- A store of metadata has a record for the last entry of each identifier. -/
theorem records_ofRecords_toRecords (m : MetadataSnapshot) :
    (Store.ofRecords m.toRecords).records =
      (lastOfEach CachedRecord.id m.records).map CachedRecord.toRecord := by
  have hhit : ∀ r ∈ m.toRecords, r.hit = none := by
    intro r hr
    obtain ⟨e, -, rfl⟩ := List.mem_map.mp hr
    rfl
  rw [Store.records_ofRecords_eq hhit, MetadataSnapshot.toRecords, lastOfEach_map]
  rfl

/-- It has each identifier once, in the order of the entries. -/
theorem ids_ofRecords_toRecords (m : MetadataSnapshot) :
    (Store.ofRecords m.toRecords).ids = (m.records.map CachedRecord.id).eraseDups := by
  rw [Store.ids, records_ofRecords_toRecords, List.map_map]
  exact map_key_lastOfEach CachedRecord.id m.records

/-- A store of metadata is restored without contents. -/
theorem isRestored_ofRecords (m : MetadataSnapshot) :
    IsRestored m [] (Store.ofRecords m.toRecords) where
  records := records_ofRecords_toRecords m
  criteria := Store.criteria_ofRecords _
  order := Store.order_ofRecords _
  rebuilt := .ofRecords _

/-- Merging contents into it restores these, and counts the pairs that are not empty and known. -/
theorem isRestored_mergeContent (m : MetadataSnapshot) (contents : List (String × String)) :
    IsRestored m contents ((Store.ofRecords m.toRecords).mergeContent contents).1 ∧
      ((Store.ofRecords m.toRecords).mergeContent contents).2 =
        contents.countP fun c => c.2 ≠ "" ∧ c.1 ∈ m.records.map CachedRecord.id := by
  have hhit : ∀ r ∈ (Store.ofRecords m.toRecords).records, r.hit = none := by
    rw [records_ofRecords_toRecords]
    intro r hr
    obtain ⟨e, -, rfl⟩ := List.mem_map.mp hr
    rfl
  have hmem : ∀ id, id ∈ (Store.ofRecords m.toRecords).ids ↔
      id ∈ m.records.map CachedRecord.id := by
    intro id
    rw [ids_ofRecords_toRecords, List.mem_eraseDups]
  obtain ⟨hrecords, hcount⟩ := Store.mergeContent_records contents
    (Store.indexed_ofRecords m.toRecords) (Store.criteria_ofRecords _) hhit
  refine ⟨⟨?_, ?_, ?_, ?_⟩, ?_⟩
  · rw [hrecords, records_ofRecords_toRecords, List.map_map]
    rfl
  · exact (Store.criteria_mergeContent _ _).trans (Store.criteria_ofRecords _)
  · exact (Store.order_mergeContent _ _).trans (Store.order_ofRecords _)
  · exact .change (.mergeContent _) (.ofRecords _) trivial rfl
  · simp only [hcount, hmem]

/-! ## What a restore comes to -/

variable {settings : CacheSettings}

/-- The contents that a folder has for a restore: none unless they are of use. -/
structure IsContents (fs : Files) (folder : Path) (contents : List (String × String)) : Prop where
  of_current : ∀ c, IsCurrentContent fs folder c → contents = contentsOf c
  of_none : (¬∃ c, IsCurrentContent fs folder c) → contents = []

/-- Whatever the folder holds, there are contents that are restored from it, if only none. -/
theorem exists_isContents (fs : Files) (folder : Path) :
    ∃ contents, IsContents fs folder contents := by
  by_cases h : ∃ c, IsCurrentContent fs folder c
  · obtain ⟨c, hc⟩ := h
    refine ⟨contentsOf c, fun d hd => ?_, fun hnone => absurd ⟨c, hc⟩ hnone⟩
    have hsame := (loadContent_eq_some_iff.mpr hc).symm.trans (loadContent_eq_some_iff.mpr hd)
    simpa using congrArg contentsOf (Option.some.inj (Except.ok.inj hsame))
  · exact ⟨[], fun c hc => absurd ⟨c, hc⟩ h, fun _ => rfl⟩

/-- Without current metadata the store stays as it was. -/
theorem restore_of_no_metadata (hhours : Snapshot.isMeasurable settings.maxAgeHours = true)
    (hnone : ¬∃ m, IsCurrent fs folder settings.maxAgeHours now m) (s : Store) :
    (fs.readText (metadataPath folder) = .unreadable ∧
      restore fs folder settings now s = (s, .error (.unreadable (metadataPath folder)))) ∨
    (fs.readText (metadataPath folder) ≠ .unreadable ∧
      restore fs folder settings now s = (s, .ok ⟨0, 0⟩)) := by
  by_cases hunreadable : fs.readText (metadataPath folder) = .unreadable
  · have hload := (load_eq_error_iff (d := MetadataSnapshot.decoder)).mpr ⟨hunreadable, rfl⟩
    refine .inl ⟨hunreadable, ?_⟩
    simp only [restore, loadMetadata, hload, bind, Except.bind]
  · rcases loadMetadata_cases fs folder settings.maxAgeHours now with
      ⟨h, -⟩ | ⟨hout, -⟩ | hload | ⟨m, hm, -⟩
    · exact absurd h hunreadable
    · exact absurd hhours (by simp [hout])
    · exact .inr ⟨hunreadable, by simp only [restore, hload]⟩
    · exact absurd ⟨m, hm⟩ hnone

/-- With current metadata a store of them takes the place of the old one, and only contents that
cannot be read are a fault. -/
theorem restore_of_current {m : MetadataSnapshot}
    (hm : IsCurrent fs folder settings.maxAgeHours now m) {contents : List (String × String)}
    (hcontents : IsContents fs folder contents) (s : Store) :
    ∃ back : Store, IsRestored m contents back ∧
      ((fs.readText (contentPath folder) = .unreadable ∧
        restore fs folder settings now s = (back, .error (.unreadable (contentPath folder)))) ∨
      (fs.readText (contentPath folder) ≠ .unreadable ∧
        restore fs folder settings now s = (back, .ok ⟨back.size,
          contents.countP fun c => c.2 ≠ "" ∧ c.1 ∈ m.records.map CachedRecord.id⟩))) := by
  have hload := loadMetadata_eq_some_iff.mpr hm
  have hnone : (∀ c, loadContent fs folder ≠ .ok (some c)) → contents = [] := fun hunloaded =>
    hcontents.of_none fun ⟨c, hc⟩ => hunloaded c (loadContent_eq_some_iff.mpr hc)
  cases hloaded : loadContent fs folder with
  | error f =>
    obtain ⟨hunreadable, rfl⟩ := loadContent_eq_error_iff.mp hloaded
    obtain rfl := hnone (by simp [hloaded])
    exact ⟨_, isRestored_ofRecords m, .inl ⟨hunreadable, restore_of_unreadable hload hunreadable s⟩⟩
  | ok loaded =>
    have hreadable : fs.readText (contentPath folder) ≠ .unreadable := by
      intro h
      have := loadContent_eq_error_iff.mpr ⟨h, rfl⟩
      rw [hloaded] at this
      cases this
    cases loaded with
    | none =>
      obtain rfl := hnone (by simp [hloaded])
      refine ⟨_, isRestored_ofRecords m, .inr ⟨hreadable, ?_⟩⟩
      simp only [restore, hload, hloaded, List.countP_nil]
    | some c =>
      obtain rfl := hcontents.of_current c (loadContent_eq_some_iff.mp hloaded)
      obtain ⟨hrestored, hcount⟩ := isRestored_mergeContent m (contentsOf c)
      refine ⟨_, hrestored, .inr ⟨hreadable, ?_⟩⟩
      simp only [restore, hload, hloaded, ← hcount]

/-- The file of current metadata can be read. -/
theorem readText_ne_of_isCurrent {m : MetadataSnapshot}
    (hm : IsCurrent fs folder maxAgeHours now m) : fs.readText (metadataPath folder) ≠ .unreadable := by
  obtain ⟨text, htext, -⟩ := hm.stored
  rw [htext]
  exact fun h => by cases h

/-- So can the file of current contents. -/
theorem readText_ne_of_isCurrentContent {c : ContentSnapshot} (hc : IsCurrentContent fs folder c) :
    fs.readText (contentPath folder) ≠ .unreadable := by
  obtain ⟨text, htext, -⟩ := hc.stored
  rw [htext]
  exact fun h => by cases h

/-- What a restore comes to, whatever the two files hold.  It succeeds unless the metadata, or the
contents when there are current metadata, are there and are no text.  Without current metadata the
store stays as it was; with them it is made of these and of the contents, if they are current. -/
theorem restore_outcome (hhours : Snapshot.isMeasurable settings.maxAgeHours = true) (s : Store) :
    ((∃ summary, (restore fs folder settings now s).2 = .ok summary) ↔
      fs.readText (metadataPath folder) ≠ .unreadable ∧
        ((∃ m, IsCurrent fs folder settings.maxAgeHours now m) →
          fs.readText (contentPath folder) ≠ .unreadable)) ∧
    ((¬∃ m, IsCurrent fs folder settings.maxAgeHours now m) →
      (restore fs folder settings now s).1 = s ∧
      ∀ summary, (restore fs folder settings now s).2 = .ok summary → summary = ⟨0, 0⟩) ∧
    ∀ m, IsCurrent fs folder settings.maxAgeHours now m →
      ∃ contents, IsContents fs folder contents ∧
        IsRestored m contents (restore fs folder settings now s).1 ∧
        ∀ summary, (restore fs folder settings now s).2 = .ok summary →
          summary = ⟨(restore fs folder settings now s).1.size,
            contents.countP fun c => c.2 ≠ "" ∧ c.1 ∈ m.records.map CachedRecord.id⟩ := by
  by_cases hmetadata : ∃ m, IsCurrent fs folder settings.maxAgeHours now m
  · obtain ⟨m, hm⟩ := hmetadata
    obtain ⟨contents, hcontents⟩ := exists_isContents fs folder
    have hreadable := readText_ne_of_isCurrent hm
    have hunique : ∀ m', IsCurrent fs folder settings.maxAgeHours now m' → m' = m := by
      intro m' hm'
      have hsame := (loadMetadata_eq_some_iff.mpr hm').symm.trans (loadMetadata_eq_some_iff.mpr hm)
      simpa using hsame
    obtain ⟨back, hback, ⟨hcontent, hrestore⟩ | ⟨hcontent, hrestore⟩⟩ :=
      restore_of_current hm hcontents s <;> rw [hrestore]
    · refine ⟨?_, fun hnone => absurd ⟨m, hm⟩ hnone, fun m' hm' => ?_⟩
      · simp [hcontent, show ∃ m, IsCurrent fs folder settings.maxAgeHours now m from ⟨m, hm⟩]
      · exact ⟨contents, hcontents, hunique m' hm' ▸ hback, fun summary h => by cases h⟩
    · refine ⟨?_, fun hnone => absurd ⟨m, hm⟩ hnone, fun m' hm' => ?_⟩
      · simp [hcontent, hreadable]
      · obtain rfl := hunique m' hm'
        exact ⟨contents, hcontents, hback, fun summary h => (Except.ok.inj h).symm⟩
  · obtain ⟨hreadable, hrestore⟩ | ⟨hreadable, hrestore⟩ :=
      restore_of_no_metadata hhours hmetadata s <;> rw [hrestore]
    · refine ⟨by simp [hreadable], fun _ => ⟨rfl, fun summary h => by cases h⟩, fun m hm => ?_⟩
      exact absurd ⟨m, hm⟩ hmetadata
    · refine ⟨by simp [hreadable, hmetadata], fun _ => ⟨rfl, fun summary h => ?_⟩, fun m hm => ?_⟩
      · exact (Except.ok.inj h).symm
      · exact absurd ⟨m, hm⟩ hmetadata

/-- Metadata with a repeated identifier. -/
def repeatingMetadata : MetadataSnapshot where
  version := 1
  savedAt := Timestamp.epoch
  records := [⟨"a", "One", Timestamp.epoch⟩, ⟨"b", "Two", Timestamp.epoch⟩,
    ⟨"a", "Three", Timestamp.epoch⟩]

/-- Contents with repeated identifiers, some of them empty and one of an unknown record. -/
def repeatingContent : ContentSnapshot where
  version := 1
  entries := [⟨"a", Timestamp.epoch, "first"⟩, ⟨"z", Timestamp.epoch, "unknown"⟩,
    ⟨"a", Timestamp.epoch, "last"⟩, ⟨"a", Timestamp.epoch, ""⟩, ⟨"b", Timestamp.epoch, ""⟩]

/-- A cache of two snapshots. -/
def filesOf (metadata : MetadataSnapshot) (content : ContentSnapshot) : Files where
  entries := [(["cache"], .folder),
    (["cache", "conversations.json"], .file metadata.toNode.toPrettyText.toUTF8),
    (["cache", "content-index.json"], .file content.toNode.toPrettyText.toUTF8)]
  here := []

/-- Metadata that were just written and are fresh are current. -/
theorem isCurrent_filesOf {m : MetadataSnapshot} (c : ContentSnapshot)
    (hversion : m.version = Snapshot.version)
    (hfresh : m.isExpired? maxAgeHours now = some false) :
    IsCurrent (filesOf m c) "cache" maxAgeHours now m where
  stored := ⟨_, Files.readText_of_file rfl,
    ((MetadataSnapshot.reads (hversion ▸ version_le)).decodeText (by decide)).2⟩
  version := hversion
  fresh := hfresh

/-- So are contents that were just written. -/
theorem isCurrentContent_filesOf (m : MetadataSnapshot) {c : ContentSnapshot}
    (hversion : c.version = Snapshot.version) : IsCurrentContent (filesOf m c) "cache" c where
  stored := ⟨_, Files.readText_of_file rfl,
    ((ContentSnapshot.reads (hversion ▸ version_le)).decodeText (by decide)).2⟩
  version := hversion

/-- The last title and the last content that is not empty are put back. -/
theorem restore_repeating :
    Snapshot.isMeasurable 24 = true ∧
    ∃ back : Store, restore (filesOf repeatingMetadata repeatingContent) "cache" ⟨24, 1⟩
        Timestamp.epoch Store.empty = (back, .ok ⟨2, 2⟩) ∧
      back.records.map (fun r => (r.id, r.title.text, r.contentText?)) =
        [("a", "Three", some "last"), ("b", "Two", none)] := by
  have hhours : Snapshot.isMeasurable 24 = true := by decide
  have hm : IsCurrent (filesOf repeatingMetadata repeatingContent) "cache" 24 Timestamp.epoch
    repeatingMetadata := isCurrent_filesOf repeatingContent rfl (by decide)
  have hc : IsCurrentContent (filesOf repeatingMetadata repeatingContent) "cache"
    repeatingContent := isCurrentContent_filesOf repeatingMetadata rfl
  generalize filesOf repeatingMetadata repeatingContent = fs at hm hc ⊢
  have hreadable : fs.readText (contentPath "cache") ≠ .unreadable := by
    obtain ⟨text, htext, -⟩ := hc.stored
    rw [htext]
    exact fun h => by cases h
  obtain ⟨hok, -, hcurrent⟩ :=
    @restore_outcome fs "cache" Timestamp.epoch ⟨24, 1⟩ hhours Store.empty
  rcases hrestore : restore fs "cache" ⟨24, 1⟩ Timestamp.epoch Store.empty with ⟨back, outcome⟩
  simp only [hrestore] at hok hcurrent
  obtain ⟨summary, hsummary⟩ := hok.mpr ⟨readText_ne_of_isCurrent hm, fun _ => hreadable⟩
  obtain ⟨contents, hcontents, hback, hcounts⟩ := hcurrent _ hm
  rw [hcontents.of_current _ hc] at hback hcounts
  have hsize : back.size = 2 := by
    rw [Store.size, hback.records]
    decide +kernel
  have hcount : summary = ⟨2, 2⟩ := by
    rw [hcounts summary hsummary, hsize]
    decide +kernel
  refine ⟨hhours, back, ?_, ?_⟩
  · rw [hsummary, hcount]
  · rw [hback.records]
    decide +kernel

/-! ## A file that is no text -/

/-- A cache of which the metadata are one byte that is no text. -/
def garbledFiles : Files where
  entries := [(["cache"], .folder), (["cache", "conversations.json"], .file ⟨#[0xff]⟩)]
  here := []

/-- A corrupt file is not always taken for none: one that is no text is a fault. -/
theorem garbled_metadata_fail :
    ¬∀ (fs : Files) (folder : Path) (settings : CacheSettings) (now : Timestamp) (s : Store),
      (∀ path ∈ [metadataPath folder, contentPath folder],
        fs.find? path = none ∨ ∃ bytes, fs.find? path = some (.file bytes)) →
      Snapshot.isMeasurable settings.maxAgeHours = true →
      ∃ summary, (restore fs folder settings now s).2 = .ok summary := by
  intro hok
  have hfound : garbledFiles.find? (metadataPath "cache") = some (.file ⟨#[0xff]⟩) := rfl
  have hmissing : garbledFiles.find? (contentPath "cache") = none := rfl
  have hbytes : String.fromUTF8? ⟨#[0xff]⟩ = none := rfl
  have hunreadable : garbledFiles.readText (metadataPath "cache") = .unreadable :=
    readText_eq_unreadable_iff.mpr (.inr ⟨_, hfound, hbytes⟩)
  have hload : load MetadataSnapshot.decoder garbledFiles (metadataPath "cache") = _ :=
    load_eq_error_iff.mpr ⟨hunreadable, rfl⟩
  obtain ⟨summary, hsummary⟩ := hok garbledFiles "cache" ⟨24, 1⟩ Timestamp.epoch Store.empty
    (by simp [hfound, hmissing]) (by decide)
  simp [restore, loadMetadata, hload, bind, Except.bind] at hsummary

end ChatArchive.Cache
