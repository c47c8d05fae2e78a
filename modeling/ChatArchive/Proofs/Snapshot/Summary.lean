import ChatArchive.Proofs.Snapshot.Outcome
import ChatArchive.Proofs.Store.Content

/-!
# What a restore reports

The report has the size of the restored store and the number of contents that were taken.  The
restored records had no content before, so this is the number of those that are indexed as far as
no record got several contents (`IsRestored.indexed_iff`); a snapshot that repeats an entry is
reported to have restored more than there is.
-/

namespace ChatArchive.Cache

open Files (Path)

variable {fs : Files} {folder : Path} {settings : CacheSettings} {now : Timestamp}

/-- Without current metadata a restore that succeeds has restored nothing. -/
theorem restored_of_no_metadata {s back : Store} {summary : Restored}
    (hnone : ¬∃ m, IsCurrent fs folder settings.maxAgeHours now m)
    (hrestore : restore fs folder settings now s = (back, .ok summary)) :
    back = s ∧ summary = ⟨0, 0⟩ := by
  rcases loadMetadata_cases fs folder settings.maxAgeHours now with
    ⟨-, hload⟩ | ⟨-, hload⟩ | hload | ⟨m, hm, -⟩
  · simp [restore, hload] at hrestore
  · simp [restore, hload] at hrestore
  · simpa [restore, hload, eq_comm] using hrestore
  · exact absurd ⟨m, hm⟩ hnone

/-- As many records of a restored store are indexed as contents were taken exactly if no record got
several of them. -/
theorem IsRestored.indexed_iff {m : MetadataSnapshot} {contents : List (String × String)}
    {back : Store} (hback : IsRestored m contents back) :
    let taken := contents.countP fun c => c.2 ≠ "" ∧ c.1 ∈ m.records.map CachedRecord.id
    back.stats.indexed ≤ taken ∧
      (taken = back.stats.indexed ↔ (takenIds back.ids contents).Nodup) := by
  intro taken
  obtain ⟨hmerged, hcount⟩ := isRestored_mergeContent m contents
  have hindexed := Store.indexed_ofRecords m.toRecords
  have hrecords := hback.records.trans hmerged.records.symm
  have hstats : back.stats.indexed =
      ((Store.ofRecords m.toRecords).mergeContent contents).1.stats.indexed :=
    congrArg (List.countP Record.isIndexed) hrecords
  have hids : back.ids = (Store.ofRecords m.toRecords).ids :=
    (congrArg (List.map Record.id) hrecords).trans (Store.ids_mergeContent contents hindexed)
  have htaken : taken = _ := hcount.symm
  rw [htaken, hstats, hids]
  exact Store.count_eq_indexed_iff_of_blank hindexed contents
    fun r hr => (MetadataSnapshot.blank_of_mem hr).1

/-- A merge gives back how many contents it took and not how many records became indexed.  The
number that did is how many more are indexed, and it is what the merge gives back exactly if the
contents that were taken belong to different records that had none.  A restore reports the size of
its store, and as many indexed records as there are exactly if no record got several contents. -/
theorem counts_of_contents {s : Store} (hs : s.Reachable) (contents : List (String × String)) :
    ((s.mergeContent contents).1.stats.indexed =
        s.stats.indexed + s.newlyIndexed (s.mergeContent contents).1 ∧
      s.newlyIndexed (s.mergeContent contents).1 ≤ (s.mergeContent contents).2 ∧
      ((s.mergeContent contents).2 = s.newlyIndexed (s.mergeContent contents).1 ↔
        (takenIds s.ids contents).Nodup ∧
          ∀ id ∈ takenIds s.ids contents, id ∈ s.unindexedIds)) ∧
    ∀ (fs : Files) (folder : Path) (settings : CacheSettings) (now : Timestamp) (back : Store)
      (summary : Restored), restore fs folder settings now s = (back, .ok summary) →
      ((¬∃ m, IsCurrent fs folder settings.maxAgeHours now m) → back = s ∧ summary = ⟨0, 0⟩) ∧
      ∀ m, IsCurrent fs folder settings.maxAgeHours now m →
        ∃ restored, IsContents fs folder restored ∧ IsRestored m restored back ∧
          summary.records = back.stats.total ∧
          back.stats.indexed ≤ summary.indexed ∧
          (summary.indexed = back.stats.indexed ↔ (takenIds back.ids restored).Nodup) := by
  have hindexed := hs.consistent.indexed
  refine ⟨⟨Store.indexed_mergeContent hindexed contents,
    Store.count_eq_newlyIndexed_iff hindexed contents⟩, ?_⟩
  intro fs folder settings now back summary hrestore
  refine ⟨fun hnone => restored_of_no_metadata hnone hrestore, fun m hm => ?_⟩
  obtain ⟨restored, hcontents⟩ := exists_isContents fs folder
  obtain ⟨made, hmade, ⟨-, hmeets⟩ | ⟨-, hmeets⟩⟩ := restore_of_current hm hcontents s
  · cases hrestore.symm.trans hmeets
  · cases hrestore.symm.trans hmeets
    exact ⟨restored, hcontents, hmade, rfl, hmade.indexed_iff⟩

/-- The metadata are current. -/
theorem isCurrent_repeatingMetadata : IsCurrent (filesOf repeatingMetadata repeatingContent)
    "cache" 24 Timestamp.epoch repeatingMetadata :=
  isCurrent_filesOf repeatingContent rfl (by decide)

/-- So are the contents. -/
theorem isCurrentContent_repeatingContent :
    IsCurrentContent (filesOf repeatingMetadata repeatingContent) "cache" repeatingContent :=
  isCurrentContent_filesOf repeatingMetadata rfl

/-- Contents that repeat an entry are reported as two, whatever was in the store before. -/
theorem restore_repeatingContent (s : Store) :
    ∃ back : Store,
      restore (filesOf repeatingMetadata repeatingContent) "cache" ⟨24, 1⟩ Timestamp.epoch s =
        (back, .ok ⟨back.size, 2⟩) ∧
      IsRestored repeatingMetadata (contentsOf repeatingContent) back := by
  have hm := isCurrent_repeatingMetadata
  have hc := isCurrentContent_repeatingContent
  generalize filesOf repeatingMetadata repeatingContent = fs at hm hc ⊢
  obtain ⟨contents, hcontents⟩ := exists_isContents fs "cache"
  obtain rfl := hcontents.of_current _ hc
  obtain ⟨back, hback, ⟨hunreadable, -⟩ | ⟨-, hrestore⟩⟩ :=
    @restore_of_current fs "cache" Timestamp.epoch ⟨24, 1⟩ _ hm _ hcontents s
  · exact absurd hunreadable (readText_ne_of_isCurrentContent hc)
  · exact ⟨back, hrestore, hback⟩

/-- Two contents of one record make one record indexed and are reported as two. -/
theorem counts_of_repeatingContent :
    let s := Store.ofRecords repeatingMetadata.toRecords
    let merged := s.mergeContent (contentsOf repeatingContent)
    s.Reachable ∧ merged.1.stats.indexed = s.stats.indexed + s.newlyIndexed merged.1 ∧
    ∃ (back : Store) (summary : Restored),
      restore (filesOf repeatingMetadata repeatingContent) "cache" ⟨24, 1⟩ Timestamp.epoch s =
        (back, .ok summary) ∧
      summary.records = back.stats.total ∧ back.stats.indexed < summary.indexed := by
  intro s merged
  have hs : s.Reachable := .ofRecords _
  obtain ⟨back, hrestore, hback⟩ := restore_repeatingContent s
  have htwice : takenIds back.ids (contentsOf repeatingContent) = ["a", "a"] := by
    rw [Store.ids, hback.records]
    decide +kernel
  obtain ⟨⟨hgrown, -⟩, hreport⟩ := counts_of_contents hs (contentsOf repeatingContent)
  obtain ⟨-, hcurrent⟩ := hreport _ _ _ _ _ _ hrestore
  obtain ⟨restored, hcontents, -, hrecords, hle, hexact⟩ := hcurrent _ isCurrent_repeatingMetadata
  rw [hcontents.of_current _ isCurrentContent_repeatingContent, htwice] at hexact
  have hne := mt hexact.mp (by decide)
  exact ⟨hs, hgrown, back, _, hrestore, hrecords, lt_of_le_of_ne hle (Ne.symm hne)⟩

/-- Neither does a merge always count the records that become indexed, nor does a restore always
report what its store has. -/
theorem repeated_contents_count_twice :
    (¬∀ (s : Store) (contents : List (String × String)), s.Reachable →
      (s.mergeContent contents).2 = s.newlyIndexed (s.mergeContent contents).1) ∧
    ¬∀ (fs : Files) (folder : Path) (settings : CacheSettings) (now : Timestamp)
        (s back : Store) (summary : Restored), s.Reachable →
      restore fs folder settings now s = (back, .ok summary) →
      summary = ⟨back.stats.total, back.stats.indexed⟩ := by
  constructor
  · intro hcount
    let s := Store.ofRecords repeatingMetadata.toRecords
    have hs : s.Reachable := .ofRecords _
    have hexact := (Store.count_eq_newlyIndexed_iff hs.consistent.indexed _).2.mp
      (hcount s (contentsOf repeatingContent) hs)
    have htwice : takenIds s.ids (contentsOf repeatingContent) = ["a", "a"] := by
      rw [ids_ofRecords_toRecords]
      decide +kernel
    rw [htwice] at hexact
    exact absurd hexact.1 (by decide)
  · intro hreport
    obtain ⟨back, hrestore, hback⟩ := restore_repeatingContent Store.empty
    have hindexed : back.stats.indexed = 1 := by
      show back.records.countP Record.isIndexed = 1
      rw [hback.records]
      decide +kernel
    have hsame : 2 = back.stats.indexed :=
      congrArg Restored.indexed (hreport _ _ _ _ _ _ _ .empty hrestore)
    omega

end ChatArchive.Cache
