import ChatArchive.Proofs.Snapshot.RoundTrip

/-!
# Restoring that fails

A missing or damaged snapshot is none, so only a file that cannot be read and an age limit that
cannot be measured are faults (`loadMetadata_cases`, `loadContent_eq_error_iff`).  It matters which
file is at fault: as long as there are no metadata the store stays as it was, but contents that
cannot be read are noticed when the metadata have already taken its place
(`store_of_failed_restore`, `restore_loses_store`).
-/

namespace ChatArchive

open Json
open Files (Path)

/-- A record that comes from metadata alone. -/
theorem MetadataSnapshot.blank_of_mem {m : MetadataSnapshot} {a : Record}
    (ha : a ∈ (Store.ofRecords m.toRecords).records) :
    a.isIndexed = false ∧ a.selected = false := by
  obtain ⟨r, hr, rfl⟩ := Store.exists_of_mem_ofRecords ha
  obtain ⟨c, -, rfl⟩ := List.mem_map.mp hr
  exact ⟨rfl, rfl⟩

namespace Cache

/-! ## Faults of loading -/

variable {fs : Files} {folder path : Path} {maxAgeHours : Int} {now : Timestamp} {f : CacheFault}

/-- Only a file that cannot be read makes loading fail. -/
theorem load_eq_error_iff {α : Type} {d : Decoder α} :
    load d fs path = .error f ↔ fs.readText path = .unreadable ∧ f = .unreadable path := by
  unfold load
  cases fs.readText path <;> simp [eq_comm]

/-- A snapshot is loaded from a text that can be decoded. -/
theorem load_eq_some_iff {α : Type} {d : Decoder α} {a : α} :
    load d fs path = .ok (some a) ↔
      ∃ text, fs.readText path = .text text ∧ decodeText d text = .ok a := by
  unfold load
  cases fs.readText path with
  | missing => simp
  | unreadable => simp
  | text s => cases h : decodeText d s <;> simp [Except.toOption, h]

/-- The metadata that are stored in a folder, if they are of use. -/
structure IsCurrent (fs : Files) (folder : Path) (maxAgeHours : Int) (now : Timestamp)
    (m : MetadataSnapshot) : Prop where
  stored : ∃ text, fs.readText (metadataPath folder) = .text text ∧
    decodeText MetadataSnapshot.decoder text = .ok m
  version : m.version = Snapshot.version
  fresh : m.isExpired? maxAgeHours now = some false

/-- What comes of loading the metadata. -/
theorem loadMetadata_cases (fs : Files) (folder : Path) (maxAgeHours : Int) (now : Timestamp) :
    (fs.readText (metadataPath folder) = .unreadable ∧
      loadMetadata fs folder maxAgeHours now = .error (.unreadable (metadataPath folder))) ∨
    (Snapshot.isMeasurable maxAgeHours = false ∧
      loadMetadata fs folder maxAgeHours now = .error .ageOutOfRange) ∨
    loadMetadata fs folder maxAgeHours now = .ok none ∨
    ∃ m, IsCurrent fs folder maxAgeHours now m ∧
      loadMetadata fs folder maxAgeHours now = .ok (some m) := by
  unfold loadMetadata
  rcases hload : load MetadataSnapshot.decoder fs (metadataPath folder) with f | _ | m
  · obtain ⟨hunreadable, rfl⟩ := load_eq_error_iff.mp hload
    exact .inl ⟨hunreadable, rfl⟩
  · exact .inr (.inr (.inl rfl))
  · simp only [bind, Except.bind]
    by_cases hversion : m.version = Snapshot.version
    · rw [if_neg (not_not.mpr hversion)]
      rcases hexpired : m.isExpired? maxAgeHours now with _ | _ | _
      · refine .inr (.inl ⟨?_, rfl⟩)
        by_contra hhours
        simp [MetadataSnapshot.isExpired?, hhours] at hexpired
      · exact .inr (.inr (.inr ⟨m, ⟨load_eq_some_iff.mp hload, hversion, hexpired⟩, rfl⟩))
      · exact .inr (.inr (.inl rfl))
    · rw [if_pos hversion]
      exact .inr (.inr (.inl rfl))

/-- Loading contents fails exactly if their file cannot be read. -/
theorem loadContent_eq_error_iff :
    loadContent fs folder = .error f ↔
      fs.readText (contentPath folder) = .unreadable ∧ f = .unreadable (contentPath folder) := by
  rw [← @load_eq_error_iff fs (contentPath folder) f _ ContentSnapshot.decoder]
  unfold loadContent
  cases load ContentSnapshot.decoder fs (contentPath folder) <;> simp [bind, Except.bind]

/-- The two snapshots have files of their own. -/
theorem metadataPath_ne_contentPath (folder : Path) : metadataPath folder ≠ contentPath folder := by
  intro heq
  have hparts := congrArg Path.parts heq
  rw [metadataPath, contentPath, Files.Path.parts_join folder (isFileName _ (by simp [fileNames])),
    Files.Path.parts_join folder (isFileName _ (by simp [fileNames]))] at hparts
  simp at hparts

/-! ## Restoring -/

/-- A restore that finds metadata but contents that cannot be read puts a store of the metadata in
the place of any store. -/
theorem restore_of_unreadable {settings : CacheSettings} {m : MetadataSnapshot}
    (hm : loadMetadata fs folder settings.maxAgeHours now = .ok (some m))
    (hcontent : fs.readText (contentPath folder) = .unreadable) (s : Store) :
    restore fs folder settings now s =
      (Store.ofRecords m.toRecords, .error (.unreadable (contentPath folder))) := by
  have hload := loadContent_eq_error_iff.mpr ⟨hcontent, rfl⟩
  simp only [restore, hm, hload]

/-- A restore fails before it has metadata, and leaves the store, or else for the contents. -/
theorem restore_eq_error {settings : CacheSettings} {s left : Store}
    (h : restore fs folder settings now s = (left, .error f)) :
    (f = .unreadable (metadataPath folder) ∨ f = .ageOutOfRange) ∧ left = s ∨
      f = .unreadable (contentPath folder) ∧ fs.readText (contentPath folder) = .unreadable ∧
        ∃ m, IsCurrent fs folder settings.maxAgeHours now m ∧
          left = Store.ofRecords m.toRecords := by
  obtain ⟨-, hload⟩ | ⟨-, hload⟩ | hload | ⟨m, hm, hload⟩ :=
    loadMetadata_cases fs folder settings.maxAgeHours now
  · obtain ⟨rfl, rfl⟩ : s = left ∧ CacheFault.unreadable (metadataPath folder) = f := by
      simpa [restore, hload] using h
    exact .inl ⟨.inl rfl, rfl⟩
  · obtain ⟨rfl, rfl⟩ : s = left ∧ CacheFault.ageOutOfRange = f := by
      simpa [restore, hload] using h
    exact .inl ⟨.inr rfl, rfl⟩
  · simp [restore, hload] at h
  · cases hcontent : loadContent fs folder with
    | error g =>
      obtain ⟨hunreadable, rfl⟩ := loadContent_eq_error_iff.mp hcontent
      rw [restore_of_unreadable hload hunreadable] at h
      cases h
      exact .inr ⟨rfl, hunreadable, m, hm, rfl⟩
    | ok loaded => cases loaded <;> simp [restore, hload, hcontent] at h

/-! ## A damaged cache -/

/-- A cache of which the metadata are those of some records and the contents are no text. -/
def damagedFiles (rs : List Record) : Files where
  entries := [(["cache"], .folder),
    (["cache", "conversations.json"],
      .file (MetadataSnapshot.ofRecords Timestamp.epoch rs).toNode.toPrettyText.toUTF8),
    (["cache", "content-index.json"], .file ⟨#[0xff]⟩)]
  here := []

/-- Of the two files the first can be read and the second cannot. -/
theorem readText_damagedFiles (rs : List Record) :
    (damagedFiles rs).readText (metadataPath "cache") =
        .text (MetadataSnapshot.ofRecords Timestamp.epoch rs).toNode.toPrettyText ∧
      (damagedFiles rs).readText (contentPath "cache") = .unreadable := by
  constructor
  · exact Files.readText_of_file rfl
  · have hfind : (damagedFiles rs).find? (contentPath "cache") = some (.file ⟨#[0xff]⟩) := rfl
    have hbytes : String.fromUTF8? ⟨#[0xff]⟩ = none := rfl
    rw [Files.readText, hfind]
    simp only [hbytes]

/-- Whatever the store is, that of the metadata takes its place when the damaged cache is put
back. -/
theorem restore_damagedFiles (rs : List Record) (s : Store) :
    restore (damagedFiles rs) "cache" ⟨24, 1⟩ Timestamp.epoch s =
      (Store.ofRecords (MetadataSnapshot.ofRecords Timestamp.epoch rs).toRecords,
        .error (.unreadable (contentPath "cache"))) := by
  obtain ⟨hmetadata, hcontent⟩ := readText_damagedFiles rs
  exact restore_of_unreadable (loadMetadata_ofRecords hmetadata (by decide) (by decide)) hcontent s

/-- Restoring is not all or nothing: here the only record is lost. -/
theorem restore_loses_store :
    ¬∀ (fs : Files) (folder : Path) (settings : CacheSettings) (now : Timestamp)
        (s left : Store) (f : CacheFault),
      restore fs folder settings now s = (left, .error f) → left = s := by
  intro hatomic
  let r := Record.ofListing "a" "One" Timestamp.epoch
  have hone : (Store.ofRecords [r]).records = [r] :=
    Store.records_ofRecords (by simp) (by simp [r, Record.ofListing])
  have hlost := hatomic _ _ _ _ _ _ _ (restore_damagedFiles [] (Store.ofRecords [r]))
  rw [← hlost] at hone
  exact List.cons_ne_nil r [] hone.symm

/-! ## What a failure leaves -/

/-- A restore that fails leaves the store as it was, unless it is for the contents: then the store
is that of the metadata, in which nothing has content and nothing is selected. -/
theorem store_of_failed_restore {settings : CacheSettings} {s left : Store}
    (h : restore fs folder settings now s = (left, .error f)) :
    (f ≠ .unreadable (contentPath folder) → left = s) ∧
    (fs.readText (contentPath folder) ≠ .unreadable → left = s) ∧
    (f = .unreadable (contentPath folder) →
      ∃ m, IsCurrent fs folder settings.maxAgeHours now m ∧
        left = Store.ofRecords m.toRecords ∧
        ∀ r ∈ left.records, r.isIndexed = false ∧ r.selected = false) := by
  obtain ⟨hf, rfl⟩ | ⟨rfl, hunreadable, m, hm, rfl⟩ := restore_eq_error h
  · refine ⟨fun _ => rfl, fun _ => rfl, ?_⟩
    rintro rfl
    obtain heq | heq := hf
    · exact absurd (CacheFault.unreadable.inj heq).symm (metadataPath_ne_contentPath folder)
    · cases heq
  · exact ⟨fun hne => absurd rfl hne, fun hne => absurd hunreadable hne,
      fun _ => ⟨m, hm, rfl, fun r hr => MetadataSnapshot.blank_of_mem hr⟩⟩

/-- The damaged cache fails for its contents, on a store with a selected record. -/
theorem failed_restore_of_damagedFiles :
    let s := (Store.ofRecords [Record.ofListing "a" "One" Timestamp.epoch]).selectVisible
    let rs := [Record.ofListing "b" "Two" Timestamp.epoch]
    let left := Store.ofRecords (MetadataSnapshot.ofRecords Timestamp.epoch rs).toRecords
    let f := CacheFault.unreadable (contentPath "cache")
    restore (damagedFiles rs) "cache" ⟨24, 1⟩ Timestamp.epoch s = (left, .error f) ∧
      ∃ m, IsCurrent (damagedFiles rs) "cache" 24 Timestamp.epoch m ∧
        left = Store.ofRecords m.toRecords ∧
        ∀ r ∈ left.records, r.isIndexed = false ∧ r.selected = false := by
  intro s rs left f
  have hfailed := restore_damagedFiles rs s
  exact ⟨hfailed, (store_of_failed_restore hfailed).2.2 rfl⟩

end Cache

end ChatArchive
