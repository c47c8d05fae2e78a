import ChatArchive.Proofs.Store.Restore

/-!
# Merging contents

The contents that a merge takes are those of known records that are not empty, `takenIds`, and
their number is what it gives back.  Afterwards a record is indexed if it was or if a content was
taken for it (`isIndexed_fill_lastTexts`), so the records that are left without content are those
that were, less the ones that a content was taken for, in the same order
(`unindexedIds_mergeContent`).

The records that became indexed are counted by `newlyIndexed`.  They are as many as the contents
that were taken exactly if these belong to different records that had none
(`count_eq_newlyIndexed_iff`).
-/

namespace ChatArchive

/-- What has one of two properties has the first or only the second. -/
theorem countP_or {α : Type} (p q : α → Bool) (xs : List α) :
    xs.countP (fun x => p x || q x) = xs.countP p + xs.countP fun x => !p x && q x := by
  induction xs with
  | nil => rfl
  | cons x xs ih =>
    simp only [List.countP_cons, ih]
    cases p x <;> cases q x <;> simp <;> omega

/-! ## Contents that are taken -/

/-- The identifiers of the contents that a merge takes, as often as they come up: those of known
records that are not empty. -/
def takenIds (known : List String) (contents : List (String × String)) : List String :=
  (contents.filter fun c => c.2 ≠ "" ∧ c.1 ∈ known).map (·.1)

/-- A known identifier is taken if some content for it is not empty. -/
theorem mem_takenIds {known : List String} {contents : List (String × String)} {id : String} :
    id ∈ takenIds known contents ↔ id ∈ known ∧ ∃ c ∈ contents, c.1 = id ∧ c.2 ≠ "" := by
  simp only [takenIds, List.mem_map, List.mem_filter, decide_eq_true_iff]
  constructor
  · rintro ⟨c, ⟨hc, htext, hknown⟩, rfl⟩
    exact ⟨hknown, c, hc, rfl, htext⟩
  · rintro ⟨hknown, c, hc, rfl, htext⟩
    exact ⟨c, ⟨hc, htext, hknown⟩, rfl⟩

/-- It is taken as often as there are such contents. -/
theorem length_takenIds (known : List String) (contents : List (String × String)) :
    (takenIds known contents).length = contents.countP fun c => c.2 ≠ "" ∧ c.1 ∈ known := by
  rw [takenIds, List.length_map, List.countP_eq_length_filter]

/-- A content counts for a lookup if it is not empty. -/
theorem isSome_lookup_lastTexts (contents : List (String × String)) (id : String) :
    ((lastTexts contents).lookup id).isSome = decide (∃ c ∈ contents, c.1 = id ∧ c.2 ≠ "") := by
  rw [Bool.eq_iff_iff, List.lookup_isSome_iff, decide_eq_true_iff]
  simp only [lastTexts, List.mem_reverse, List.mem_filter, decide_eq_true_iff, beq_iff_eq]
  constructor
  · rintro ⟨c, ⟨hc, htext⟩, rfl⟩
    exact ⟨c, hc, rfl, htext⟩
  · rintro ⟨c, hc, rfl, htext⟩
    exact ⟨c, ⟨hc, htext⟩, rfl⟩

namespace Record

/-- A record is indexed if it was or if a content is taken for it. -/
theorem isIndexed_fill_lastTexts {known : List String} (contents : List (String × String))
    {r : Record} (hr : r.id ∈ known) :
    (r.fill (lastTexts contents)).isIndexed =
      (r.isIndexed || decide (r.id ∈ takenIds known contents)) := by
  have htaken : decide (∃ c ∈ contents, c.1 = r.id ∧ c.2 ≠ "") =
      decide (r.id ∈ takenIds known contents) :=
    decide_eq_decide.mpr (mem_takenIds.trans (and_iff_right hr)).symm
  rw [isIndexed_eq_isSome, r.contentText?_fill fun _ => text_ne_of_mem_lastTexts, Option.isSome_or,
    isSome_lookup_lastTexts, htaken, isIndexed_eq_isSome, Bool.or_comm]

/-- Contents change neither the title of a record, nor its time, nor whether it is selected. -/
theorem listing_fill (contents : List (String × String)) (r : Record) :
    (r.fill contents).title = r.title ∧ (r.fill contents).updatedAt = r.updatedAt ∧
      (r.fill contents).selected = r.selected := by
  unfold fill setContent
  repeat' split
  all_goals exact ⟨rfl, rfl, rfl⟩

end Record

namespace Store

/-! ## Records without content -/

/-- Where records change in such a way that they keep their times and only those with some
identifiers are left without content, the others are left out of the list. -/
theorem unindexedIds_of_map {s t : Store} {f : Record → Record} {p : String → Bool}
    (hrecords : t.records = s.records.map f) (hid : ∀ r, (f r).id = r.id)
    (htime : ∀ r, (f r).updatedAt = r.updatedAt)
    (hindexed : ∀ r ∈ s.records, (f r).isIndexed = (r.isIndexed || !p r.id)) :
    t.unindexedIds = s.unindexedIds.filter p := by
  have hle : ∀ a b, SortOrder.newest.le a b = SortOrder.newest.le (f a) (f b) := by
    intro a b
    simp only [SortOrder.le, htime]
  have hleft : (s.records.map f).filter (fun r => !r.isIndexed) =
      ((s.records.filter fun r => !r.isIndexed).filter fun r => p r.id).map f := by
    rw [List.filter_map, List.filter_filter]
    refine congrArg (List.map f) (List.filter_congr fun r hr => ?_)
    simp [hindexed r hr, Bool.and_comm]
  have htrans : ∀ a b c, SortOrder.newest.le a b = true → SortOrder.newest.le b c = true →
      SortOrder.newest.le a c = true := fun _ _ _ => SortOrder.le_trans
  have htotal : ∀ a b, (SortOrder.newest.le a b || SortOrder.newest.le b a) = true := by
    intro a b
    rw [Bool.or_eq_true]
    exact SortOrder.le_total _ a b
  rw [unindexedIds, hrecords, hleft, ← List.map_mergeSort fun a _ b _ => hle a b, List.map_map,
    ← filter_mergeSort htrans htotal, unindexedIds, List.filter_map]
  exact List.map_congr_left fun r _ => hid r

/-- The identifiers that wait for content are those of the records without it. -/
theorem perm_unindexedIds (s : Store) :
    s.unindexedIds.Perm ((s.records.filter fun r => !r.isIndexed).map Record.id) :=
  (List.mergeSort_perm _ _).map Record.id

/-- They are identifiers of the store. -/
theorem mem_ids_of_mem_unindexedIds {s : Store} {id : String} (hid : id ∈ s.unindexedIds) :
    id ∈ s.ids :=
  (List.filter_sublist.map Record.id).subset (s.perm_unindexedIds.subset hid)

/-- None of them is listed twice. -/
theorem nodup_unindexedIds {s : Store} (hs : s.Indexed) : s.unindexedIds.Nodup :=
  s.perm_unindexedIds.nodup_iff.mpr (hs.nodup.sublist (List.filter_sublist.map Record.id))

/-- After a merge the records that a content was taken for are no longer without content, and the
others are listed as before. -/
theorem unindexedIds_mergeContent {s : Store} (hs : s.Indexed)
    (contents : List (String × String)) :
    (s.mergeContent contents).1.unindexedIds =
      s.unindexedIds.filter (· ∉ takenIds s.ids contents) := by
  refine unindexedIds_of_map (records_mergeContent contents hs) (fun r => r.id_fill _)
    (fun r => (r.listing_fill _).2.1) fun r hr => ?_
  have hknown : r.id ∈ s.ids := List.mem_map_of_mem hr
  rw [decide_not, Bool.not_not]
  exact Record.isIndexed_fill_lastTexts contents hknown

/-! ## Counts -/

/-- How many records are indexed after a change that were not before. -/
def newlyIndexed (before after : Store) : Nat :=
  before.records.countP fun r => !r.isIndexed && (after.get? r.id).any (·.isIndexed)

section

variable {s : Store} (hs : s.Indexed) (contents : List (String × String))
include hs

/-- A merge gives back how many contents it took. -/
theorem count_mergeContent : (s.mergeContent contents).2 = (takenIds s.ids contents).length := by
  rw [length_takenIds]
  exact (mergeContents_records contents hs 0).2.trans (Nat.zero_add _)

/-- After a merge the record with an identifier is indexed if it was or if a content was taken for
it. -/
theorem any_isIndexed_mergeContent {r : Record} (hr : r ∈ s.records) :
    ((s.mergeContent contents).1.get? r.id).any (·.isIndexed) =
      (r.isIndexed || decide (r.id ∈ takenIds s.ids contents)) := by
  have hindexed : (s.mergeContent contents).1.Indexed := (hs.mergeContents 0 contents).refresh
  have hrecord : s.criteria.mark (r.fill (lastTexts contents)) ∈
      (s.mergeContent contents).1.records := by
    rw [records_mergeContent contents hs]
    exact List.mem_map_of_mem hr
  rw [hindexed.get?_eq_some_iff.mpr ⟨hrecord, r.id_fill _⟩, Option.any_some]
  exact Record.isIndexed_fill_lastTexts contents (List.mem_map_of_mem hr)

/-- The records that become indexed are those without content that one was taken for. -/
theorem newlyIndexed_mergeContent :
    s.newlyIndexed (s.mergeContent contents).1 =
      (s.unindexedIds.filter (· ∈ takenIds s.ids contents)).length := by
  have hnew : s.newlyIndexed (s.mergeContent contents).1 =
      s.records.countP fun r => decide (r.id ∈ takenIds s.ids contents) && !r.isIndexed := by
    refine List.countP_congr fun r hr => ?_
    rw [any_isIndexed_mergeContent hs contents hr]
    cases r.isIndexed <;> simp
  rw [(s.perm_unindexedIds.filter _).length_eq, List.filter_map, List.length_map,
    List.filter_filter, ← List.countP_eq_length_filter, hnew]
  rfl

/-- No record loses its content. -/
theorem indexed_mergeContent :
    (s.mergeContent contents).1.stats.indexed =
      s.stats.indexed + s.newlyIndexed (s.mergeContent contents).1 := by
  show (s.mergeContent contents).1.records.countP (·.isIndexed) = s.records.countP _ + _
  rw [newlyIndexed, ← countP_or, records_mergeContent contents hs, List.countP_map]
  refine List.countP_congr fun r hr => ?_
  have hknown : r.id ∈ s.ids := List.mem_map_of_mem hr
  rw [any_isIndexed_mergeContent hs contents hr, Bool.or_self_left,
    ← Record.isIndexed_fill_lastTexts contents hknown]
  rfl

/-- No more records become indexed than contents are taken, and as many do exactly if these belong
to different records that had none. -/
theorem count_eq_newlyIndexed_iff :
    s.newlyIndexed (s.mergeContent contents).1 ≤ (s.mergeContent contents).2 ∧
      ((s.mergeContent contents).2 = s.newlyIndexed (s.mergeContent contents).1 ↔
        (takenIds s.ids contents).Nodup ∧
          ∀ id ∈ takenIds s.ids contents, id ∈ s.unindexedIds) := by
  rw [newlyIndexed_mergeContent hs, count_mergeContent hs, eq_comm]
  exact length_filter_mem (nodup_unindexedIds hs)

/-- In a store that had no content as many records are indexed afterwards as contents were taken
exactly if these belong to different records. -/
theorem count_eq_indexed_iff_of_blank (hblank : ∀ r ∈ s.records, r.isIndexed = false) :
    (s.mergeContent contents).1.stats.indexed ≤ (s.mergeContent contents).2 ∧
      ((s.mergeContent contents).2 = (s.mergeContent contents).1.stats.indexed ↔
        (takenIds s.ids contents).Nodup) := by
  have hnone : s.stats.indexed = 0 := by
    show s.records.countP (·.isIndexed) = 0
    exact List.countP_eq_zero.mpr fun r hr => by simp [hblank r hr]
  have hall : ∀ id ∈ takenIds s.ids contents, id ∈ s.unindexedIds := by
    intro id hid
    obtain ⟨r, hr, rfl⟩ := List.mem_map.mp (mem_takenIds.mp hid).1
    rw [s.perm_unindexedIds.mem_iff]
    exact List.mem_map_of_mem (List.mem_filter.mpr ⟨hr, by simp [hblank r hr]⟩)
  obtain ⟨hle, hiff⟩ := count_eq_newlyIndexed_iff hs contents
  rw [indexed_mergeContent hs, hnone, Nat.zero_add]
  exact ⟨hle, hiff.trans (and_iff_left hall)⟩

end

end Store

end ChatArchive
