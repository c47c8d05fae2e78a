import ChatArchive.Proofs.Store.Reachable

/-!
# What is selected

The selected identifiers are collected in two passes: one over the view, and one over the records
that leaves out what the first has listed.  In a consistent store this comes to one way through all
positions, those of the view and then those that it leaves out (`Consistent.selectedIds_eq`).  The
way takes in every position once (`Consistent.perm_range`), so every selected record is listed once
and nothing else is (`Consistent.perm_selectedIds`).
-/

namespace ChatArchive.Store

/-! ## Positions -/

/-- The positions that the view leaves out, in the order of the records. -/
def hiddenPositions (s : Store) : List Nat := (List.range s.size).filter (· ∉ s.view)

/-- What is at the positions of a list is the list. -/
theorem filterMap_getElem?_range {α : Type} (xs : List α) :
    (List.range xs.length).filterMap (xs[·]?) = xs := by
  induction xs using List.reverseRecOn with
  | nil => rfl
  | append_singleton xs x ih =>
    have hfront : ∀ i ∈ List.range xs.length, (xs ++ [x])[i]? = xs[i]? :=
      fun i hi => List.getElem?_append_left (List.mem_range.mp hi)
    rw [List.length_append, List.length_singleton, List.range_succ, List.filterMap_append,
      List.filterMap_congr hfront, ih]
    simp

/-- The positions of the view and those that it leaves out are all positions, each once. -/
theorem Consistent.perm_range {s : Store} (h : s.Consistent) :
    (s.view ++ s.hiddenPositions).Perm (List.range s.size) := by
  have hhidden : ∀ i, i ∈ s.hiddenPositions ↔ i < s.size ∧ i ∉ s.view := by simp [hiddenPositions]
  have hnodup : (s.view ++ s.hiddenPositions).Nodup :=
    List.nodup_append.mpr ⟨h.view_nodup, List.nodup_range.filter _, fun i hi j hj hij =>
      ((hhidden j).mp hj).2 (hij ▸ hi)⟩
  rw [List.perm_ext_iff_of_nodup hnodup List.nodup_range]
  intro i
  have hlt : i ∈ s.view → i < s.size := h.view_lt i
  rw [List.mem_append, hhidden, List.mem_range]
  tauto

/-- Records at different positions have different identifiers. -/
theorem Indexed.position_unique {s : Store} (h : s.Indexed) {i j : Nat} {a b : Record}
    (ha : s.records[i]? = some a) (hb : s.records[j]? = some b) (hid : a.id = b.id) : i = j := by
  have hi := (h a.id i).mpr (by rw [getElem?_ids, ha]; rfl)
  have hj := (h a.id j).mpr (by rw [getElem?_ids, hb, hid]; rfl)
  exact Option.some.inj (hi.symm.trans hj)

/-! ## Selected identifiers -/

/-- The identifier of the record at a position, if that is selected. -/
def selectedId? (s : Store) (i : Nat) : Option String :=
  (s.records[i]?.filter (·.selected)).map Record.id

/-- A position has a selected identifier if the record there is selected. -/
theorem selectedId?_eq_some_iff {s : Store} {i : Nat} {id : String} :
    s.selectedId? i = some id ↔ ∃ r, s.records[i]? = some r ∧ r.selected = true ∧ r.id = id := by
  simp [selectedId?, Option.filter_eq_some_iff, and_assoc]

/-- The selected identifiers of the view come in its order. -/
theorem visibleSelectedIds_eq (s : Store) :
    s.visibleSelectedIds = s.view.filterMap s.selectedId? := by
  rw [visibleSelectedIds, visible, List.filter_filterMap, List.map_filterMap]
  rfl

/-- The selected records, at whatever positions they stand. -/
theorem filterMap_selectedId?_range (s : Store) :
    (List.range s.size).filterMap s.selectedId? =
      (s.records.filter (·.selected)).map Record.id := by
  conv_rhs => rw [← filterMap_getElem?_range s.records, List.filter_filterMap, List.map_filterMap]
  rfl

namespace Consistent

variable {s : Store}

/-- The view lists a selected record exactly if it has its position. -/
theorem mem_visibleSelectedIds_iff (h : s.Consistent) {i : Nat} {r : Record}
    (hr : s.records[i]? = some r) (hselected : r.selected = true) :
    r.id ∈ s.visibleSelectedIds ↔ i ∈ s.view := by
  rw [visibleSelectedIds_eq, List.mem_filterMap]
  constructor
  · rintro ⟨j, hj, hid⟩
    obtain ⟨a, ha, -, hsame⟩ := selectedId?_eq_some_iff.mp hid
    rwa [h.indexed.position_unique hr ha hsame.symm]
  · intro hi
    exact ⟨i, hi, selectedId?_eq_some_iff.mpr ⟨r, hr, hselected, rfl⟩⟩

/-- The selected records of the view come first, in its order, and then those that it leaves out, in
the order of the store. -/
theorem selectedIds_eq (h : s.Consistent) :
    s.selectedIds =
      s.view.filterMap s.selectedId? ++ s.hiddenPositions.filterMap s.selectedId? := by
  rw [selectedIds, ← visibleSelectedIds_eq]
  congr 1
  conv_lhs => rw [← filterMap_getElem?_range s.records]
  rw [List.filter_filterMap, List.map_filterMap, hiddenPositions, List.filterMap_filter]
  refine List.filterMap_congr fun i _ => ?_
  unfold selectedId?
  cases hr : s.records[i]? with
  | none => simp
  | some r =>
    cases hselected : r.selected with
    | false => simp [Option.filter, hselected]
    | true =>
      have hlisted := h.mem_visibleSelectedIds_iff hr hselected
      by_cases hi : i ∈ s.view <;> simp [Option.filter, hselected, hi, hlisted]

/-- Every selected record is listed once, and nothing else is. -/
theorem perm_selectedIds (h : s.Consistent) :
    s.selectedIds.Perm ((s.records.filter (·.selected)).map Record.id) := by
  rw [h.selectedIds_eq, ← List.filterMap_append, ← filterMap_selectedId?_range]
  exact h.perm_range.filterMap _

/-- No selected identifier is listed twice. -/
theorem nodup_selectedIds (h : s.Consistent) : s.selectedIds.Nodup :=
  h.perm_selectedIds.nodup_iff.mpr
    (h.indexed.nodup.sublist (List.filter_sublist.map Record.id))

/-- The selected identifiers are those of the selected records. -/
theorem mem_selectedIds_iff (h : s.Consistent) {id : String} :
    id ∈ s.selectedIds ↔ ∃ r ∈ s.records, r.selected = true ∧ r.id = id := by
  simp [h.perm_selectedIds.mem_iff, and_assoc]

/-- There are as many as the statistics say. -/
theorem length_selectedIds (h : s.Consistent) : s.selectedIds.length = s.stats.selected := by
  rw [h.perm_selectedIds.length_eq, List.length_map, stats, List.countP_eq_length_filter]

/-- Whether a record that is known is listed says whether it is selected. -/
theorem id_mem_selectedIds_iff (h : s.Consistent) {r : Record} (hr : r ∈ s.records) :
    r.id ∈ s.selectedIds ↔ r.selected = true := by
  rw [h.mem_selectedIds_iff]
  constructor
  · rintro ⟨a, ha, hselected, hid⟩
    have hlookup := h.indexed.get?_eq_some_iff.mpr ⟨ha, hid⟩
    rw [h.indexed.get?_eq_some_iff.mpr ⟨hr, rfl⟩] at hlookup
    rwa [Option.some.inj hlookup]
  · exact fun hselected => ⟨r, hr, hselected, rfl⟩

end Consistent

/-! ## Selecting what is visible -/

/-- Selecting what is visible selects the records at the positions of the view and leaves the
others. -/
theorem getElem?_records_selectVisible (s : Store) (i : Nat) :
    s.selectVisible.records[i]? =
      s.records[i]?.map fun r => if i ∈ s.view then r.setSelected true else r := by
  have hfold : ∀ (view : List Nat) (rs : List Record),
      (view.foldl (fun rs j => rs.modify j (·.setSelected true)) rs)[i]? =
        rs[i]?.map fun r => if i ∈ view then r.setSelected true else r := by
    intro view
    induction view with
    | nil => simp
    | cons j view ih =>
      intro rs
      rw [List.foldl_cons, ih, List.getElem?_modify]
      cases rs[i]? with
      | none => rfl
      | some r =>
        by_cases hij : j = i
        · subst hij
          simp [Record.setSelected]
        · simp [hij, Ne.symm hij]
  exact hfold s.view s.records

/-- Selecting what is visible adds the identifiers of the view. -/
theorem selectedId?_selectVisible (s : Store) (i : Nat) :
    s.selectVisible.selectedId? i =
      if i ∈ s.view then s.records[i]?.map Record.id else s.selectedId? i := by
  unfold selectedId?
  rw [getElem?_records_selectVisible]
  cases s.records[i]? <;> split_ifs <;> simp [Record.setSelected]

/-- Once everything visible is selected, the whole view is listed first, in its order, and then what
was selected of the rest. -/
theorem Consistent.selectedIds_selectVisible {s : Store} (h : s.Consistent) :
    s.selectVisible.selectedIds =
      s.visible.map Record.id ++ s.hiddenPositions.filterMap s.selectedId? := by
  have hsize : s.selectVisible.size = s.size := by
    rw [size, ← length_ids, ids_selectVisible, length_ids, size]
  have hhidden : s.selectVisible.hiddenPositions = s.hiddenPositions := by
    unfold hiddenPositions
    rw [hsize]
    rfl
  have hview : s.view.filterMap s.selectVisible.selectedId? = s.visible.map Record.id := by
    rw [visible, List.map_filterMap]
    refine List.filterMap_congr fun i hi => ?_
    rw [selectedId?_selectVisible, if_pos hi]
  have hrest : s.hiddenPositions.filterMap s.selectVisible.selectedId? =
      s.hiddenPositions.filterMap s.selectedId? := by
    refine List.filterMap_congr fun i hi => ?_
    have hnot : i ∉ s.view := by simpa using (List.mem_filter.mp hi).2
    rw [selectedId?_selectVisible, if_neg hnot]
  have hselected : s.selectVisible.selectedIds =
      s.view.filterMap s.selectVisible.selectedId? ++
        s.selectVisible.hiddenPositions.filterMap s.selectVisible.selectedId? :=
    (h.change .selectVisible).selectedIds_eq
  rw [hselected, hview, hhidden, hrest]

end ChatArchive.Store
