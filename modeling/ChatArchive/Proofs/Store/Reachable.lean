import ChatArchive.Proofs.Filter.Verdict
import ChatArchive.Proofs.Store.Index

/-!
# Reachable stores

`Change` has one case for each operation on a store, and `ReachableWith` says which stores come
about from nothing or from some records by changes.

A change either ends with a refresh, of a store that is indexed if the one before was
(`Change.exists_refresh`), or it leaves the identifiers, the index and the members of the view as
they are (`Change.keeps_of_not_rebuilds`).  So every reachable store is consistent
(`ReachableWith.consistent`): records, index and view agree, whatever the order of the changes was.
-/

namespace ChatArchive

/-! ## Changes -/

/-- A use of one of the setters of a record. -/
inductive Record.Edit where
  | title (text : String)
  | content (text : String)
  | time (t : Timestamp)
  | selected (on : Bool)

/-- The record after an edit. -/
def Record.Edit.apply (e : Record.Edit) (r : Record) : Record :=
  match e with
  | .title text => r.setTitle text
  | .content text => r.setContent text
  | .time t => r.setUpdatedAt t
  | .selected on => r.setSelected on

/-- An edit keeps the identifier. -/
@[simp] theorem Record.Edit.id_apply (e : Record.Edit) (r : Record) : (e.apply r).id = r.id := by
  cases e with
  | content text => exact Store.id_setContent r text
  | title _ | time _ | selected _ => rfl

namespace Store

/-- An operation that changes a store. -/
inductive Change where
  | applyFilter (c : Criteria)
  | clearFilter
  | setOrder (o : SortOrder)
  | refresh
  | mergeListing (clock : Clock) (items : List ListingItem)
  | mergeContent (contents : List (String × String))
  | removeIds (ids : List String)
  | setSelected (id : String) (on : Bool)
  | toggleSelected (id : String)
  | selectVisible
  | clearSelection
  /-- Look a record up and use one of its setters. -/
  | edit (id : String) (e : Record.Edit)

namespace Change

/-- The store after a change. -/
def apply (c : Change) (s : Store) : Store :=
  match c with
  | applyFilter criteria => s.applyFilter criteria
  | clearFilter => s.clearFilter
  | setOrder o => s.setOrder o
  | refresh => s.refresh
  | mergeListing clock items => (s.mergeListing clock items).1
  | mergeContent contents => (s.mergeContent contents).1
  | removeIds ids => (s.removeIds ids).1
  | setSelected id on => (s.setSelected id on).1
  | toggleSelected id => (s.toggleSelected id).1
  | selectVisible => s.selectVisible
  | clearSelection => s.clearSelection
  | edit id e => s.modify id e.apply

/-- Does the change make the view anew? -/
def rebuilds : Change → Bool
  | applyFilter _ | clearFilter | refresh | mergeListing _ _ | mergeContent _ | removeIds _ => true
  | setOrder _ | setSelected _ _ | toggleSelected _ | selectVisible | clearSelection
  | edit _ _ => false

/-- The criteria that a change gives are of some kind. -/
def Uses (allowed : Criteria → Prop) : Change → Prop
  | applyFilter criteria => allowed criteria
  | _ => True

/-- The criteria after a change. -/
def criteriaAfter (c : Change) (s : Store) : Criteria :=
  match c with
  | applyFilter criteria => criteria
  | clearFilter => Criteria.empty
  | _ => s.criteria

end Change

/-! ## Criteria -/

/-- Searching again keeps the criteria. -/
@[simp] theorem criteria_refresh (s : Store) : s.refresh.criteria = s.criteria := rfl

/-- A change of a record keeps them. -/
@[simp] theorem criteria_modify (s : Store) (id : String) (f : Record → Record) :
    (s.modify id f).criteria = s.criteria := by
  unfold modify
  cases s.positions[id]? <;> rfl

/-- So does a record that is inserted. -/
@[simp] theorem criteria_insert (s : Store) (r : Record) :
    (s.insert r).criteria = s.criteria := by
  unfold insert
  cases s.positions[r.id]? <;> rfl

/-- So do some records that are inserted. -/
theorem criteria_foldl_insert (rs : List Record) (s : Store) :
    (rs.foldl insert s).criteria = s.criteria := by
  induction rs generalizing s with
  | nil => rfl
  | cons r rs ih => exact (ih _).trans (criteria_insert s r)

/-- So do items that are merged. -/
theorem criteria_mergeItems (s : Store) (clock : Clock) (reading : Nat) (counts : ListingCounts)
    (items : List ListingItem) :
    (s.mergeItems clock reading counts items).1.criteria = s.criteria := by
  induction items generalizing s reading counts with
  | nil => rfl
  | cons item items ih =>
    rw [mergeItems, ih, mergeItem]
    split_ifs
    · exact criteria_modify s item.id _
    · exact criteria_insert s _

/-- So do contents that are merged. -/
theorem criteria_mergeContents (s : Store) (count : Nat) (contents : List (String × String)) :
    (s.mergeContents count contents).1.criteria = s.criteria := by
  induction contents generalizing s count with
  | nil => rfl
  | cons entry rest ih =>
    rw [mergeContents]
    split_ifs
    · exact (ih _ _).trans (criteria_modify s _ _)
    · exact ih _ _

/-! ## Two kinds of changes -/

/-- A change that makes the view anew ends with a refresh, of a store that is indexed if the one
before was. -/
theorem Change.exists_refresh {c : Change} (hc : c.rebuilds = true) (s : Store) :
    ∃ t : Store, c.apply s = t.refresh ∧ t.criteria = c.criteriaAfter s ∧
      (s.Indexed → t.Indexed) := by
  cases c with
  | applyFilter criteria => exact ⟨{ s with criteria := criteria }, rfl, rfl, id⟩
  | clearFilter => exact ⟨{ s with criteria := Criteria.empty }, rfl, rfl, id⟩
  | refresh => exact ⟨s, rfl, rfl, id⟩
  | mergeListing clock items =>
    exact ⟨(s.mergeItems clock 0 ⟨0, 0⟩ items).1, rfl, criteria_mergeItems s clock 0 _ items,
      fun h => h.mergeItems clock 0 _ items⟩
  | mergeContent contents =>
    exact ⟨(s.mergeContents 0 contents).1, rfl, criteria_mergeContents s 0 contents,
      fun h => h.mergeContents 0 contents⟩
  | removeIds ids =>
    exact ⟨_, rfl, rfl, fun h => h.keep fun r => !ids.contains r.id⟩
  | setOrder _ | setSelected _ _ | toggleSelected _ | selectVisible | clearSelection | edit _ _ =>
    exact absurd hc (by simp [rebuilds])

/-- Any other change leaves the identifiers, the index and the members of the view. -/
theorem Change.keeps_of_not_rebuilds {c : Change} (hc : c.rebuilds = false) (s : Store) :
    (c.apply s).ids = s.ids ∧ (c.apply s).positions = s.positions ∧
      (c.apply s).view.Perm s.view ∧ (c.apply s).criteria = c.criteriaAfter s := by
  cases c with
  | setOrder o => exact ⟨rfl, rfl, List.mergeSort_perm _ _, rfl⟩
  | setSelected id on =>
    have hid : ∀ r : Record, (r.setSelected on).id = r.id := fun _ => rfl
    exact ⟨ids_modify hid s id, positions_modify s id _, .of_eq (view_modify s id _),
      criteria_modify s id _⟩
  | toggleSelected id =>
    have hid : ∀ r : Record, (r.setSelected (!r.selected)).id = r.id := fun _ => rfl
    exact ⟨ids_modify hid s id, positions_modify s id _, .of_eq (view_modify s id _),
      criteria_modify s id _⟩
  | selectVisible => exact ⟨ids_selectVisible s, rfl, .refl _, rfl⟩
  | clearSelection => exact ⟨ids_clearSelection s, rfl, .refl _, rfl⟩
  | edit id e =>
    exact ⟨ids_modify e.id_apply s id, positions_modify s id _, .of_eq (view_modify s id _),
      criteria_modify s id _⟩
  | applyFilter _ | clearFilter | refresh | mergeListing _ _ | mergeContent _ | removeIds _ =>
    exact absurd hc (by simp [rebuilds])

/-- The criteria after a change are those that it sets, if it sets any. -/
theorem Change.criteria_apply (c : Change) (s : Store) :
    (c.apply s).criteria = c.criteriaAfter s := by
  cases hc : c.rebuilds with
  | true =>
    obtain ⟨t, happly, hcriteria, -⟩ := exists_refresh hc s
    rw [happly, criteria_refresh, hcriteria]
  | false => exact (keeps_of_not_rebuilds hc s).2.2.2

/-! ## Consistency -/

/-- Records, index and view agree. -/
structure Consistent (s : Store) : Prop where
  indexed : s.Indexed
  view_nodup : s.view.Nodup
  view_lt : ∀ i ∈ s.view, i < s.records.length

namespace Consistent

variable {s : Store}

/-- A store stays consistent if its identifiers and index stay and its view is rearranged at
most. -/
theorem of_keeps {t : Store} (h : s.Consistent) (hids : t.ids = s.ids)
    (hpositions : t.positions = s.positions) (hview : t.view.Perm s.view) : t.Consistent where
  indexed := h.indexed.of_ids_eq hids hpositions
  view_nodup := hview.nodup_iff.mpr h.view_nodup
  view_lt := by
    intro i hi
    rw [← length_ids, hids, length_ids]
    exact h.view_lt i (hview.mem_iff.mp hi)

/-- A refresh makes the view consistent, whatever it was. -/
theorem refresh (h : s.Indexed) : s.refresh.Consistent where
  indexed := h.refresh
  view_nodup := by
    have hsorted := Criteria.visiblePositions_pairwise s.criteria s.records
    exact (List.mergeSort_perm _ _).nodup_iff.mpr (hsorted.imp Nat.ne_of_lt)
  view_lt := by
    intro i hi
    obtain ⟨r, hr, -⟩ := Criteria.mem_visiblePositions.mp (List.mem_mergeSort.mp hi)
    rw [← length_ids, ids_refresh, length_ids]
    exact (List.getElem?_eq_some_iff.mp hr).1

/-- A change keeps a store consistent. -/
theorem change (h : s.Consistent) (c : Change) : (c.apply s).Consistent := by
  cases hc : c.rebuilds with
  | true =>
    obtain ⟨t, happly, -, hindexed⟩ := Change.exists_refresh hc s
    rw [happly]
    exact refresh (hindexed h.indexed)
  | false =>
    obtain ⟨hids, hpositions, hview, -⟩ := Change.keeps_of_not_rebuilds hc s
    exact h.of_keeps hids hpositions hview

/-- Every position of the view has a record. -/
theorem length_visible (h : s.Consistent) : s.visible.length = s.view.length := by
  unfold visible
  rw [List.length_filterMap_eq_countP, List.countP_eq_length]
  intro i hi
  simpa using h.view_lt i hi

end Consistent

/-! ## Reachable stores -/

/-- The stores that come about from nothing or from some records by changes, where the criteria
that are given are of some kind. -/
inductive ReachableWith (allowed : Criteria → Prop) : Store → Prop where
  | empty : ReachableWith allowed Store.empty
  | ofRecords (rs : List Record) : ReachableWith allowed (Store.ofRecords rs)
  | change {s : Store} (c : Change) (h : ReachableWith allowed s) (hc : c.Uses allowed) :
      ReachableWith allowed (c.apply s)

/-- The stores that come about by any changes. -/
abbrev Reachable : Store → Prop := ReachableWith fun _ => True

/-- Every reachable store is consistent. -/
theorem ReachableWith.consistent {allowed : Criteria → Prop} {s : Store}
    (h : ReachableWith allowed s) : s.Consistent := by
  induction h with
  | empty => exact ⟨indexed_empty, List.nodup_nil, by simp [Store.empty]⟩
  | ofRecords rs => exact Consistent.refresh (indexed_foldl_insert rs indexed_empty)
  | change c _ _ ih => exact ih.change c

/-- The criteria of a reachable store are of the kind that was given, if the empty ones are. -/
theorem ReachableWith.criteria {allowed : Criteria → Prop} (hempty : allowed Criteria.empty)
    {s : Store} (h : ReachableWith allowed s) : allowed s.criteria := by
  induction h with
  | empty => exact hempty
  | ofRecords rs =>
    rw [Store.ofRecords, criteria_refresh, criteria_foldl_insert]
    exact hempty
  | change c _ hc ih =>
    rw [Change.criteria_apply]
    cases c with
    | applyFilter criteria => exact hc
    | clearFilter => exact hempty
    | refresh | mergeListing _ _ | mergeContent _ | removeIds _ | setOrder _ | setSelected _ _
    | toggleSelected _ | selectVisible | clearSelection | edit _ _ => exact ih

/-- The index of a reachable store knows its records and nothing else, each once and at its place;
so identifiers are distinct, an identifier is looked up exactly if a record carries it, and neither
the index nor the view leads to a position without a record. -/
theorem lookups_of_reachable {s : Store} (h : s.Reachable) :
    s.ids.Nodup ∧
    (∀ (id : String) (i : Nat),
      s.positions[id]? = some i ↔ ∃ r : Record, s.records[i]? = some r ∧ r.id = id) ∧
    (s.view.Nodup ∧ ∀ i ∈ s.view, i < s.size) ∧
    (∀ (id : String) (r : Record), s.get? id = some r ↔ r ∈ s.records ∧ r.id = id) ∧
    (∀ id : String, s.get? id = none ↔ ∀ r ∈ s.records, r.id ≠ id) ∧
    (∀ (id : String) (i : Nat), s.positions[id]? = some i → i < s.size) ∧
    s.visible.length = s.view.length := by
  have hs := h.consistent
  refine ⟨hs.indexed.nodup, ?_, ⟨hs.view_nodup, hs.view_lt⟩, ?_, ?_, ?_, hs.length_visible⟩
  · intro id i
    rw [hs.indexed id i, getElem?_ids, Option.map_eq_some_iff]
  · exact fun id r => hs.indexed.get?_eq_some_iff
  · exact fun id => hs.indexed.get?_eq_none_iff
  · intro id i hi
    have := hs.indexed.lt_length hi
    rwa [length_ids] at this

/-- Three records of which two have one identifier, and then the removal of the other one. -/
theorem lookups_after_removal :
    let r (id title : String) : Record := Record.ofListing id title Timestamp.epoch
    let s := (Change.removeIds ["b"]).apply (ofRecords [r "a" "One", r "b" "Two", r "a" "Three"])
    s.Reachable ∧ s.ids.Nodup ∧ s.visible.length = s.view.length := by
  intro r s
  have hs : s.Reachable := .change _ (.ofRecords _) trivial
  obtain ⟨hnodup, -, -, -, -, -, hvisible⟩ := lookups_of_reachable hs
  exact ⟨hs, hnodup, hvisible⟩

end Store

end ChatArchive
