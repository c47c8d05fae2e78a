import ChatArchive.Proofs.Operation.Delete
import ChatArchive.Proofs.Store.Resort
import ChatArchive.Proofs.Store.Selection

/-!
# Deleting what is selected

A deletion of the selected conversations asks the page for each of them once and for no other one,
those that are visible first.  Whatever the page answers, a record leaves the store if it is
selected and some result says that it is gone, and all other records stay
(`targets_of_selection`).
-/

namespace ChatArchive.Operation.Delete

open Store

/-- Where the task asks for what is selected, a record is confirmed if it is selected and some
result says that it is gone. -/
theorem confirmed_selectedIds_iff {s : Store} (h : s.Consistent) {results : List DeleteResult}
    {record : Record} (hrecord : record ∈ s.records) :
    Confirmed s.selectedIds results record.id ↔
      record.selected = true ∧ ∃ result ∈ results, result.id = record.id ∧ result.ok = true := by
  rw [Confirmed, h.id_mem_selectedIds_iff hrecord]

/-- The selected identifiers are those of the selected records, each once: first those of the view
in its order, and then those of the records that it leaves out, in the order of the store.  Once
everything visible is selected, the whole view is listed first.  A deletion that is given them asks
the page for just these, counts them, and takes from the store those of their records that the page
says are gone, and no others. -/
theorem targets_of_selection {settings : OperationSettings} {r : ScriptResult} {w : Workspace}
    {results : List DeleteResult} (hstore : w.store.Reachable)
    (hresults : r.dataAs decoder = .ok results) (clock : Clock) :
    w.store.selectedIds = w.store.view.filterMap w.store.selectedId? ++
        w.store.hiddenPositions.filterMap w.store.selectedId? ∧
    w.store.selectedIds.Nodup ∧
    (∀ id, id ∈ w.store.selectedIds ↔
      ∃ record ∈ w.store.records, record.selected = true ∧ record.id = id) ∧
    w.store.stats.selected = w.store.selectedIds.length ∧
    w.store.selectVisible.selectedIds = w.store.visible.map Record.id ++
        w.store.hiddenPositions.filterMap w.store.selectedId? ∧
    (task settings w.store.selectedIds).total = some w.store.stats.selected ∧
    (∀ context, (task settings w.store.selectedIds).script context =
      .ok (Task.scriptOf context [Task.idsParam w.store.selectedIds,
        ("itemDelayMs", .ofNat settings.deleteDelayMillis)] body)) ∧
    ∃ (store : Store) (summary : DeleteSummary),
      (task settings w.store.selectedIds).merge clock r w =
        ({ w with store := store }, .ok summary) ∧
      store.records = (w.store.records.filter fun record => ¬ (record.selected = true ∧
        ∃ result ∈ results, result.id = record.id ∧ result.ok = true)).map
          w.store.criteria.mark := by
  have hs := hstore.consistent
  refine ⟨hs.selectedIds_eq, hs.nodup_selectedIds, fun id => hs.mem_selectedIds_iff,
    hs.length_selectedIds.symm, hs.selectedIds_selectVisible,
    congrArg some hs.length_selectedIds, fun context => rfl,
    _, _, merge_eq hresults clock w, ?_⟩
  rw [records_mergeResults]
  refine congrArg (List.map _) (List.filter_congr fun record hrecord => ?_)
  exact decide_eq_decide.mpr (not_congr (confirmed_selectedIds_iff hs hrecord))

/-- Three records, of which the first two are selected. -/
def threeRecords : List Record :=
  let record (id : String) (d : Date) : Record := Record.ofListing id "Title" (Timestamp.startOf d)
  [(record "a" ⟨2, by decide, by decide⟩).setSelected true,
    (record "b" ⟨3, by decide, by decide⟩).setSelected true, record "c" ⟨4, by decide, by decide⟩]

/-- Criteria that leave out the first of them. -/
def laterDays : Criteria := Criteria.empty.afterDate ⟨3, by decide, by decide⟩

/-- The store of these records, filtered. -/
def filteredStore : Store := (Change.applyFilter laterDays).apply (Store.ofRecords threeRecords)

/-- The filtered store can be reached. -/
theorem reachable_filteredStore : filteredStore.Reachable :=
  .change (.applyFilter _) (.ofRecords _) trivial

/-- A filter keeps the records, and notes nothing on these. -/
theorem records_filteredStore : filteredStore.records = threeRecords := by
  have hhit : ∀ record ∈ threeRecords, record.hit = none := by
    simp [threeRecords, Record.ofListing, Record.setSelected]
  have hmark : ∀ record ∈ threeRecords, laterDays.mark record = id record :=
    fun record hrecord => Criteria.mark_of_not_located id (hhit record hrecord)
  show (Store.ofRecords threeRecords).records.map laterDays.mark = _
  rw [Store.records_ofRecords (by decide) hhit, List.map_congr_left hmark, List.map_id]

/-- The newest record comes first. -/
theorem view_filteredStore : filteredStore.view = [2, 1] := by
  have hview : filteredStore.view = (laterDays.visiblePositions filteredStore.records).mergeSort
      filteredStore.positionLe := view_refresh _
  have hvisible : laterDays.visiblePositions threeRecords = [1, 2] := by decide +kernel
  have horder : filteredStore.order = .newest := order_ofRecords _
  have hle : filteredStore.positionLe 1 2 = false := by
    unfold positionLe
    rw [records_filteredStore, horder]
    decide +kernel
  rw [hview, records_filteredStore, hvisible]
  simp [List.mergeSort, hle]

/-- A selected record of the view comes first although one became known before it that the filter
hides.  The page says that it is gone, and says so of one that is not selected. -/
theorem targets_of_hidden_selection :
    let r := resultOf "results" [resultJson "c" true, resultJson "b" true, resultJson "a" false]
    let w : Workspace := ⟨filteredStore, ⟨[], []⟩⟩
    w.store.Reachable ∧ ∃ (results : List DeleteResult) (store : Store) (summary : DeleteSummary),
      r.dataAs decoder = .ok results ∧
      w.store.selectedIds = ["b", "a"] ∧
      w.store.selectVisible.selectedIds = ["c", "b", "a"] ∧
      (task .default w.store.selectedIds).merge (fun _ => Timestamp.epoch) r w =
        ({ w with store := store }, .ok summary) ∧
      store.ids = ["a", "c"] := by
  intro r w
  let results : List DeleteResult := [⟨"c", true, none⟩, ⟨"b", true, none⟩, ⟨"a", false, none⟩]
  have hresults : r.dataAs decoder = .ok results := by rfl
  obtain ⟨hlisted, -, -, -, hselect, -, -, store, summary, hmerge, hrecords⟩ :=
    @targets_of_selection .default r w results reachable_filteredStore hresults
      fun _ => Timestamp.epoch
  have hw : w.store = filteredStore := rfl
  refine ⟨reachable_filteredStore, results, store, summary, hresults, ?_, ?_, hmerge, ?_⟩
  · rw [hlisted, hw, hiddenPositions, size]
    unfold selectedId?
    rw [view_filteredStore, records_filteredStore]
    decide +kernel
  · rw [hselect, hw, visible, hiddenPositions, size]
    unfold selectedId?
    rw [view_filteredStore, records_filteredStore]
    decide +kernel
  · rw [Store.ids, hrecords, hw, List.map_map, records_filteredStore]
    decide +kernel

end ChatArchive.Operation.Delete
