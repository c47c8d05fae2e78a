import ChatArchive.Operation.Delete
import ChatArchive.Proofs.Operation.Reply
import ChatArchive.Proofs.Store.Restore

/-!
# What deleting makes of the store

The results come from the page, which may say anything of any conversation, several times and in
any order.  A record leaves the store only if the task asked for it and some result says that it is
gone (`Confirmed`), and all other records stay, in their order (`merge_of_results`).

What is reported is read off the results and not off the store.  It agrees with what became of the
store as far as the results neither repeat nor contradict each other (`report_of_results`).
-/

namespace ChatArchive.Operation.Delete

open Store

/-- The task asked for a conversation, and some result says that it is gone. -/
def Confirmed (ids : List String) (results : List DeleteResult) (id : String) : Prop :=
  id ∈ ids ∧ ∃ result ∈ results, result.id = id ∧ result.ok = true

/-- It can be decided, for there are finitely many results. -/
instance (ids : List String) (results : List DeleteResult) :
    DecidablePred (Confirmed ids results) :=
  fun id => inferInstanceAs
    (Decidable (id ∈ ids ∧ ∃ result ∈ results, result.id = id ∧ result.ok = true))

/-- The identifiers that are reported as gone, as often as results say so. -/
def reported (ids : List String) (results : List DeleteResult) : List String :=
  deletedIds (results.filter fun result => ids.contains result.id)

/-- What is reported as gone is what is confirmed. -/
theorem mem_reported_iff {ids : List String} {results : List DeleteResult} {id : String} :
    id ∈ reported ids results ↔ Confirmed ids results id := by
  unfold reported deletedIds Confirmed
  simp only [List.mem_map, List.mem_filter, List.contains_iff_mem]
  constructor
  · rintro ⟨result, ⟨⟨hresult, hasked⟩, hok⟩, rfl⟩
    exact ⟨hasked, result, hresult, rfl, hok⟩
  · rintro ⟨hasked, result, hresult, rfl, hok⟩
    exact ⟨result, ⟨⟨hresult, hasked⟩, hok⟩, rfl⟩

/-- The records that stay are those that are not confirmed, in their order. -/
theorem records_mergeResults (ids : List String) (results : List DeleteResult) (s : Store) :
    (mergeResults ids results s).1.records =
      (s.records.filter fun record => ¬ Confirmed ids results record.id).map s.criteria.mark := by
  have hkept : ∀ record : Record, (!(reported ids results).contains record.id) =
      decide (¬ Confirmed ids results record.id) := by
    intro record
    rw [Bool.eq_iff_iff, Bool.not_eq_true', ← Bool.not_eq_true, List.contains_iff_mem,
      mem_reported_iff, decide_eq_true_iff]
  have hfilter := List.filter_congr fun record (_ : record ∈ s.records) => hkept record
  rw [← hfilter]
  rfl

/-- A merge of results that can be decoded is the merge of these results. -/
theorem merge_eq {settings : OperationSettings} {ids : List String} {r : ScriptResult}
    {results : List DeleteResult} (hresults : r.dataAs decoder = .ok results) (clock : Clock)
    (w : Workspace) :
    (task settings ids).merge clock r w =
      ({ w with store := (mergeResults ids results w.store).1 },
        .ok (mergeResults ids results w.store).2) := by
  show Delete.merge ids clock r w = _
  rw [Delete.merge, hresults]

/-- The store that a deletion leaves is indexed as the one before was. -/
theorem indexed_mergeResults {s : Store} (hs : s.Indexed) (ids : List String)
    (results : List DeleteResult) : (mergeResults ids results s).1.Indexed :=
  (hs.keep fun r => !(reported ids results).contains r.id).refresh

/-- After a deletion the store has the records that it had before, without those that are
confirmed; only what the filter finds is noted on them anew.  Every one of them is looked up. -/
theorem merge_of_results {settings : OperationSettings} {ids : List String} {r : ScriptResult}
    {w : Workspace} {results : List DeleteResult} (hstore : w.store.Reachable)
    (hresults : r.dataAs decoder = .ok results) (clock : Clock) :
    ∃ (store : Store) (summary : DeleteSummary),
      (task settings ids).merge clock r w = ({ w with store := store }, .ok summary) ∧
      store.records = (w.store.records.filter fun record =>
        ¬ Confirmed ids results record.id).map w.store.criteria.mark ∧
      (∀ record ∈ store.records, store.get? record.id = some record) ∧
      ∀ id, Confirmed ids results id → store.get? id = none := by
  have hindexed := indexed_mergeResults hstore.consistent.indexed ids results
  have hrecords := records_mergeResults ids results w.store
  refine ⟨(mergeResults ids results w.store).1, (mergeResults ids results w.store).2,
    merge_eq hresults clock w, hrecords, ?_, ?_⟩
  · intro record hrecord
    exact hindexed.get?_eq_some_iff.mpr ⟨hrecord, rfl⟩
  · intro id hconfirmed
    rw [hindexed.get?_eq_none_iff, hrecords]
    intro record hrecord hid
    obtain ⟨before, hbefore, rfl⟩ := List.mem_map.mp hrecord
    have hkept : ¬ Confirmed ids results before.id := by
      simpa using (List.mem_filter.mp hbefore).2
    exact hkept (hid ▸ hconfirmed)

/-- What the page says of one conversation. -/
def resultJson (id : String) (ok : Bool) : Json := .obj [("id", .str id), ("ok", .bool ok)]

/-- Results of which one is of a conversation that nobody asked for, one says that a conversation is
still there, and two contradict each other. -/
theorem merge_of_contradicting_results :
    let r := resultOf "results"
      [resultJson "c" true, resultJson "b" false, resultJson "a" false, resultJson "a" true]
    let record (id : String) : Record := Record.ofListing id "Title" Timestamp.epoch
    let w : Workspace := ⟨Store.ofRecords [record "a", record "b", record "c"], ⟨[], []⟩⟩
    w.store.Reachable ∧ ∃ (results : List DeleteResult) (store : Store) (summary : DeleteSummary),
      r.dataAs decoder = .ok results ∧
      (task .default ["a", "b"]).merge (fun _ => Timestamp.epoch) r w =
        ({ w with store := store }, .ok summary) ∧
      store.get? "a" = none := by
  intro r record w
  have hstore : w.store.Reachable := .ofRecords _
  let results : List DeleteResult :=
    [⟨"c", true, none⟩, ⟨"b", false, none⟩, ⟨"a", false, none⟩, ⟨"a", true, none⟩]
  have hresults : r.dataAs decoder = .ok results := by rfl
  have hconfirmed : Confirmed ["a", "b"] results "a" := by decide
  obtain ⟨store, summary, hmerge, -, -, hgone⟩ :=
    merge_of_results hstore hresults fun _ => Timestamp.epoch
  exact ⟨hstore, results, store, summary, hresults, hmerge, hgone "a" hconfirmed⟩

/-! ## The report -/

/-- The identifiers that stay are those that are not confirmed, in their order. -/
theorem ids_mergeResults (ids : List String) (results : List DeleteResult) (s : Store) :
    (mergeResults ids results s).1.ids = s.ids.filter fun id => ¬ Confirmed ids results id := by
  rw [Store.ids, records_mergeResults, List.map_map, Store.ids, List.filter_map]
  rfl

/-- The records that leave the store are those that are reported as gone. -/
theorem size_mergeResults (ids : List String) (results : List DeleteResult) (s : Store) :
    s.size = (mergeResults ids results s).1.size +
      (s.ids.filter (· ∈ reported ids results)).length := by
  have hleft : s.ids.filter (fun id => !decide (¬ Confirmed ids results id)) =
      s.ids.filter (· ∈ reported ids results) := by
    refine List.filter_congr fun id _ => ?_
    rw [Bool.eq_iff_iff, Bool.not_eq_true', decide_eq_false_iff_not, not_not, decide_eq_true_iff]
    exact mem_reported_iff.symm
  have hparts := List.length_eq_length_filter_add (l := s.ids)
    fun id => decide (¬ Confirmed ids results id)
  rwa [← ids_mergeResults, hleft, length_ids, length_ids] at hparts

/-- A conversation is listed as not gone if some result of a conversation that the task asked for
says so. -/
theorem mem_failuresOf_iff {ids : List String} {results : List DeleteResult} {id : String} :
    id ∈ (failuresOf (results.filter fun result => ids.contains result.id)).map Prod.fst ↔
      id ∈ ids ∧ ∃ result ∈ results, result.id = id ∧ result.ok = false := by
  unfold failuresOf
  rw [List.map_map]
  simp only [List.mem_map, List.mem_filter, List.contains_iff_mem, Bool.not_eq_true',
    Function.comp_apply]
  constructor
  · rintro ⟨result, ⟨⟨hresult, hasked⟩, hok⟩, rfl⟩
    exact ⟨hasked, result, hresult, rfl, hok⟩
  · rintro ⟨hasked, result, hresult, rfl, hok⟩
    exact ⟨result, ⟨⟨hresult, hasked⟩, hok⟩, rfl⟩

/-- A record that was there is still there, selected or not as before, unless it is confirmed. -/
theorem keeps_iff {ids : List String} {results : List DeleteResult} {s : Store} (hs : s.Indexed)
    {id : String} {before : Record} (hbefore : s.get? id = some before) :
    (∃ kept, (mergeResults ids results s).1.get? id = some kept ∧
      kept.selected = before.selected) ↔ ¬ Confirmed ids results id := by
  obtain ⟨hmem, rfl⟩ := hs.get?_eq_some_iff.mp hbefore
  have hindexed := indexed_mergeResults hs ids results
  have hrecords := records_mergeResults ids results s
  constructor
  · rintro ⟨kept, hkept, -⟩ hconfirmed
    obtain ⟨hthere, hid⟩ := hindexed.get?_eq_some_iff.mp hkept
    have hids : before.id ∈ (mergeResults ids results s).1.ids :=
      hid ▸ List.mem_map_of_mem hthere
    rw [ids_mergeResults] at hids
    exact (of_decide_eq_true (List.mem_filter.mp hids).2) hconfirmed
  · intro hnot
    refine ⟨s.criteria.mark before, hindexed.get?_eq_some_iff.mpr ⟨?_, rfl⟩, rfl⟩
    rw [hrecords]
    exact List.mem_map_of_mem (List.mem_filter.mpr ⟨hmem, decide_eq_true hnot⟩)

/-- What a deletion reports, against what became of the store.  No more records leave the store
than are reported as gone, and as many do exactly if each of these was there and is reported once.
Of the conversations that are listed as not gone, a record that was there is still there, selected
or not as before, exactly if no other result says that it is gone. -/
theorem report_of_results {settings : OperationSettings} {ids : List String} {r : ScriptResult}
    {w : Workspace} {results : List DeleteResult} (hstore : w.store.Reachable)
    (hresults : r.dataAs decoder = .ok results) (clock : Clock) :
    ∃ (store : Store) (summary : DeleteSummary),
      (task settings ids).merge clock r w = ({ w with store := store }, .ok summary) ∧
      w.store.size ≤ store.size + summary.deleted ∧
      (w.store.size = store.size + summary.deleted ↔
        (reported ids results).Nodup ∧ ∀ id ∈ reported ids results, id ∈ w.store.ids) ∧
      (∀ id, id ∈ summary.failures.map Prod.fst ↔
        id ∈ ids ∧ ∃ result ∈ results, result.id = id ∧ result.ok = false) ∧
      ∀ id ∈ summary.failures.map Prod.fst, ∀ before, w.store.get? id = some before →
        ((∃ kept, store.get? id = some kept ∧ kept.selected = before.selected) ↔
          ¬ Confirmed ids results id) := by
  have hindexed := hstore.consistent.indexed
  have hsize := size_mergeResults ids results w.store
  obtain ⟨hle, hexact⟩ : (w.store.ids.filter (· ∈ reported ids results)).length ≤ _ ∧ _ :=
    length_filter_mem hindexed.nodup
  have hdeleted : (mergeResults ids results w.store).2.deleted = (reported ids results).length :=
    rfl
  refine ⟨(mergeResults ids results w.store).1, (mergeResults ids results w.store).2,
    merge_eq hresults clock w, ?_, ?_, fun _ => mem_failuresOf_iff,
    fun _ _ _ => keeps_iff hindexed⟩
  · omega
  · rw [← hexact, hdeleted]
    omega

/-- One conversation is gone, and the other one stays selected. -/
theorem report_of_partial_failure :
    let r := resultOf "results" [resultJson "a" true, resultJson "b" false]
    let w : Workspace := ⟨Store.ofRecords (twoRecords true), ⟨[], []⟩⟩
    w.store.Reachable ∧ ∃ (results : List DeleteResult) (store : Store) (summary : DeleteSummary),
      r.dataAs decoder = .ok results ∧
      (task .default ["a", "b"]).merge (fun _ => Timestamp.epoch) r w =
        ({ w with store := store }, .ok summary) ∧
      w.store.size = store.size + summary.deleted ∧
      ∃ kept, store.get? "b" = some kept ∧ kept.selected = true := by
  intro r w
  have hstore : w.store.Reachable := .ofRecords _
  let results : List DeleteResult := [⟨"a", true, none⟩, ⟨"b", false, none⟩]
  have hresults : r.dataAs decoder = .ok results := by rfl
  have hids : w.store.ids = ["a", "b"] := ids_twoRecords true
  obtain ⟨store, summary, hmerge, -, hcount, hlisted, hkept⟩ :=
    @report_of_results .default ["a", "b"] r w results hstore hresults fun _ => Timestamp.epoch
  have hbefore : w.store.get? "b" = some (twoRecords true)[1] := get?_twoRecords (.tail _ (.head _))
  have hunconfirmed : ¬ Confirmed ["a", "b"] results "b" := by decide
  have hb : "b" ∈ summary.failures.map Prod.fst :=
    (hlisted "b").mpr ⟨by decide, ⟨"b", false, none⟩, by simp [results], rfl, rfl⟩
  have hgone : reported ["a", "b"] results = ["a"] := by decide
  refine ⟨hstore, results, store, summary, hresults, hmerge, hcount.mpr ?_,
    (hkept "b" hb _ hbefore).mpr hunconfirmed⟩
  rw [hgone, hids]
  decide

/-- Neither part of the report is always true: a conversation that is reported as gone twice counts
twice, and one that is reported as gone and as not gone is listed as there although its record has
left. -/
theorem contradicting_results_misreport :
    (¬∀ (settings : OperationSettings) (ids : List String) (r : ScriptResult) (clock : Clock)
        (w : Workspace) (store : Store) (summary : DeleteSummary), w.store.Reachable →
      (task settings ids).merge clock r w = ({ w with store := store }, .ok summary) →
      w.store.size = store.size + summary.deleted) ∧
    ¬∀ (settings : OperationSettings) (ids : List String) (r : ScriptResult) (clock : Clock)
        (w : Workspace) (store : Store) (summary : DeleteSummary), w.store.Reachable →
      (task settings ids).merge clock r w = ({ w with store := store }, .ok summary) →
      ∀ id ∈ summary.failures.map Prod.fst, ∀ before, w.store.get? id = some before →
        ∃ kept, store.get? id = some kept ∧ kept.selected = before.selected := by
  let r := resultOf "results"
    [resultJson "a" true, resultJson "a" true, resultJson "b" true, resultJson "b" false]
  let w : Workspace := ⟨Store.ofRecords (twoRecords true), ⟨[], []⟩⟩
  have hstore : w.store.Reachable := .ofRecords _
  let results : List DeleteResult :=
    [⟨"a", true, none⟩, ⟨"a", true, none⟩, ⟨"b", true, none⟩, ⟨"b", false, none⟩]
  have hresults : r.dataAs decoder = .ok results := by rfl
  have hmerge : (task .default ["a", "b"]).merge (fun _ => Timestamp.epoch) r w = _ :=
    merge_eq hresults (fun _ => Timestamp.epoch) w
  constructor
  · intro hcount
    have htrue := hcount _ _ _ _ _ _ _ hstore hmerge
    have hsize : w.store.size = 2 := congrArg List.length (records_twoRecords true)
    have hdeleted : (mergeResults ["a", "b"] results w.store).2.deleted = 3 := rfl
    omega
  · intro hkept
    have hbefore : w.store.get? "b" = some (twoRecords true)[1] :=
      get?_twoRecords (.tail _ (.head _))
    have hb := hkept _ _ _ _ _ _ _ hstore hmerge "b" (by decide) _ hbefore
    exact (keeps_iff hstore.consistent.indexed hbefore).mp hb (by decide)

end ChatArchive.Operation.Delete
