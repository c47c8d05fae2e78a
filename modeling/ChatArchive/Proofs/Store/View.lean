import ChatArchive.Proofs.Query.Terms
import ChatArchive.Proofs.Store.Order
import ChatArchive.Proofs.Store.Reachable

/-!
# What the view shows

A refresh marks the records and makes the view from what the criteria say of them.  Marks are not
looked at by criteria (`verdict_mark`), so what holds of the records before a refresh holds of those
after it: the view has exactly the records that satisfy the criteria (`mem_view_refresh`), in order
and with ties as they became known (`view_refresh_pairwise`), and every record is noted with what
was found in it (`hit_of_mem_refresh`).

`Rebuilt` collects the stores whose last change made the view anew, and `view_of_rebuilt` says all
of this about them, in terms of titles and contents alone.
-/

namespace ChatArchive

/-! ## Marks -/

namespace Criteria

/-- The query was read from a text. -/
def IsParsed (c : Criteria) : Prop := ∃ text, c.query = Query.ofText text

/-- The query that asks for nothing is what a blank text is read as. -/
theorem isParsed_empty : Criteria.empty.IsParsed := ⟨"", by simp [Query.ofText, Text.trim]; rfl⟩

/-- A mark changes nothing that a verdict looks at. -/
@[simp] theorem verdict_mark (c d : Criteria) (r : Record) : c.verdict (d.mark r) = c.verdict r :=
  rfl

/-- A mark changes nothing that decides whether a record is shown. -/
@[simp] theorem shows_mark (c d : Criteria) (r : Record) : c.Shows (d.mark r) ↔ c.Shows r := by
  rw [← isVisible_verdict_iff, verdict_mark, isVisible_verdict_iff]

end Criteria

namespace Store

/-! ## Refreshes -/

/-- Searching again marks every record at its place. -/
theorem getElem?_records_refresh (s : Store) (i : Nat) :
    s.refresh.records[i]? = s.records[i]?.map s.criteria.mark :=
  List.getElem?_map

/-- After a refresh the view has the records that satisfy the criteria. -/
theorem mem_view_refresh (s : Store) (i : Nat) :
    i ∈ s.refresh.view ↔ ∃ r, s.refresh.records[i]? = some r ∧ s.criteria.Shows r := by
  have hsorted : i ∈ s.refresh.view ↔ i ∈ s.criteria.visiblePositions s.records :=
    List.mem_mergeSort
  rw [hsorted, Criteria.mem_visiblePositions, getElem?_records_refresh]
  constructor
  · rintro ⟨r, hr, hshows⟩
    exact ⟨s.criteria.mark r, by rw [hr]; rfl, (Criteria.shows_mark _ _ r).mpr hshows⟩
  · rintro ⟨_, hmarked, hshows⟩
    obtain ⟨r, hr, rfl⟩ := Option.map_eq_some_iff.mp hmarked
    exact ⟨r, hr, (Criteria.shows_mark _ _ r).mp hshows⟩

/-- After a refresh the visible records are those that satisfy the criteria. -/
theorem mem_visible_refresh {s : Store} {r : Record} :
    r ∈ s.refresh.visible ↔ r ∈ s.refresh.records ∧ s.criteria.Shows r := by
  unfold visible
  rw [List.mem_filterMap]
  constructor
  · rintro ⟨i, hi, hr⟩
    obtain ⟨r', hr', hshows⟩ := (mem_view_refresh s i).mp hi
    obtain rfl : r' = r := Option.some.inj (hr'.symm.trans hr)
    exact ⟨List.mem_of_getElem? hr, hshows⟩
  · rintro ⟨hmem, hshows⟩
    obtain ⟨i, hi⟩ := List.mem_iff_getElem?.mp hmem
    exact ⟨i, (mem_view_refresh s i).mpr ⟨r, hi, hshows⟩, hi⟩

/-- After a refresh the view is sorted, with ties in the order of the records. -/
theorem view_refresh_pairwise (s : Store) : s.refresh.view.Pairwise s.refresh.StandsBefore := by
  let filtered : Store := { s with
    records := s.records.map s.criteria.mark
    view := s.criteria.visiblePositions s.records }
  refine sortView_pairwise (s := filtered) (Criteria.visiblePositions_pairwise _ _) ?_
  intro i hi
  obtain ⟨r, hr, -⟩ := Criteria.mem_visiblePositions.mp hi
  rw [List.length_map]
  exact (List.getElem?_eq_some_iff.mp hr).1

/-- After a refresh every record is noted with what was found in it. -/
theorem hit_of_mem_refresh {s : Store} {r : Record} (hr : r ∈ s.refresh.records) :
    r.hit = (s.criteria.verdict r).hit? := by
  obtain ⟨r, -, rfl⟩ := List.mem_map.mp hr
  rfl

/-! ## Rebuilt stores -/

/-- The stores whose view was made anew by the last change, where all queries were read from
texts. -/
inductive Rebuilt : Store → Prop where
  | ofRecords (rs : List Record) : Rebuilt (Store.ofRecords rs)
  | change {s : Store} (c : Change) (h : ReachableWith Criteria.IsParsed s)
      (hc : c.Uses Criteria.IsParsed) (hr : c.rebuilds = true) : Rebuilt (c.apply s)

namespace Rebuilt

/-- What was rebuilt can be reached. -/
theorem reachable {s : Store} (h : s.Rebuilt) : ReachableWith Criteria.IsParsed s := by
  cases h with
  | ofRecords rs => exact .ofRecords rs
  | change c h hc hr => exact .change c h hc

/-- The last that was done to a rebuilt store was a refresh. -/
theorem exists_refresh {s : Store} (h : s.Rebuilt) : ∃ t : Store, s = t.refresh := by
  cases h with
  | ofRecords rs => exact ⟨_, rfl⟩
  | @change s c h hc hr =>
    obtain ⟨t, happly, -, -⟩ := Change.exists_refresh hr s
    exact ⟨t, happly⟩

end Rebuilt

/-- In a rebuilt store, the view has the records that satisfy the criteria, sorted, with ties in
the order in which they became known; a visible record is noted with the fields that satisfy the
query if that looks for terms or a pattern, with a preview if it looks for terms; and nothing is
noted on any other record. -/
theorem view_of_rebuilt {s : Store} (h : s.Rebuilt) :
    (∀ i, i ∈ s.view ↔ ∃ r, s.records[i]? = some r ∧ s.criteria.Shows r) ∧
    (s.view.Nodup ∧ s.view.Pairwise s.StandsBefore) ∧
    (∀ r ∈ s.records, s.criteria.Shows r → s.criteria.query.mode.IsLocated →
      ∃ hit, r.hit = some hit ∧
        hit.place.Names (s.criteria.query.Matches r.title.text) (s.criteria.ContentMatches r) ∧
        (s.criteria.query.mode.terms?.isSome → hit.preview ≠ "")) ∧
    (∀ r ∈ s.records, ¬ (s.criteria.Shows r ∧ s.criteria.query.mode.IsLocated) → r.hit = none) := by
  have hnodup := h.reachable.consistent.view_nodup
  obtain ⟨text, hquery⟩ := h.reachable.criteria Criteria.isParsed_empty
  obtain ⟨t, rfl⟩ := h.exists_refresh
  refine ⟨mem_view_refresh t, ⟨hnodup, view_refresh_pairwise t⟩, ?_, ?_⟩
  · intro r hr hshows hlocated
    obtain ⟨place, hhit, hnames, hfound⟩ := Criteria.hit?_verdict_of_located hlocated hshows
    refine ⟨_, (hit_of_mem_refresh hr).trans hhit, hnames, ?_⟩
    intro hterms
    obtain ⟨terms, hterms⟩ := Option.isSome_iff_exists.mp hterms
    refine Criteria.preview_foundFields_ne_empty hterms ?_ hfound
    rw [hquery] at hterms
    exact Query.term_ne_empty_of_ofText hterms
  · intro r hr hnot
    rw [hit_of_mem_refresh hr]
    exact Criteria.hit?_verdict_eq_none hnot

/-- Two records with one title and one time, and then a filter. -/
theorem view_after_filter :
    let r (id : String) : Record := Record.ofListing id "Alpha project" Timestamp.epoch
    let c := Criteria.ofQuery (Query.ofText "alpha not:debug")
    let s := (Change.applyFilter c).apply (ofRecords [r "1", r "2"])
    s.Rebuilt ∧ s.view.Nodup ∧ s.view.Pairwise s.StandsBefore := by
  intro r c s
  have hs : s.Rebuilt := .change _ (.ofRecords _) ⟨"alpha not:debug", rfl⟩ rfl
  exact ⟨hs, (view_of_rebuilt hs).2.1⟩

end Store

end ChatArchive
