import ChatArchive.Store.Merge
import ChatArchive.Store.Selection
import Mathlib.Data.List.Induction
import Mathlib.Data.List.Nodup

/-!
# The index of a store

The index of a store is redundant: it repeats where the records stand.  `Indexed` says that it
repeats this truthfully, that is, that it gives for an identifier the position of the record which
carries it and nothing for any other text.  Two records with one identifier could not both be
indexed, so the identifiers of an indexed store are distinct (`IsIndex.nodup`).

Every operation on records keeps a store indexed.  There are three ways in which they do: they
leave the identifiers as they are (`Indexed.of_ids_eq`), they put a new one at the end
(`IsIndex.append`), or they make the index anew (`isIndex_positionsOf`).
-/

namespace ChatArchive.Store

/-! ## Indexes -/

/-- An index of some identifiers: it gives the position of each of them, and knows no other. -/
def IsIndex (index : Std.HashMap String Nat) (ids : List String) : Prop :=
  ∀ (id : String) (i : Nat), index[id]? = some i ↔ ids[i]? = some id

namespace IsIndex

variable {index : Std.HashMap String Nat} {ids : List String} {id : String}

/-- An index has no identifier twice. -/
theorem nodup (h : IsIndex index ids) : ids.Nodup := by
  rw [List.nodup_iff_getElem?_ne_getElem?]
  intro i j hij hj he
  have hi := (h ids[j] i).mpr (by rw [he, List.getElem?_eq_getElem hj])
  have hj := (h ids[j] j).mpr (List.getElem?_eq_getElem hj)
  rw [hi] at hj
  exact absurd (Option.some.inj hj) (Nat.ne_of_lt hij)

/-- No position is beyond the end. -/
theorem lt_length (h : IsIndex index ids) {i : Nat} (hi : index[id]? = some i) :
    i < ids.length :=
  (List.getElem?_eq_some_iff.mp ((h id i).mp hi)).1

/-- The index knows an identifier exactly if it is in the list. -/
theorem contains_iff (h : IsIndex index ids) : index.contains id = true ↔ id ∈ ids := by
  rw [Std.HashMap.contains_eq_isSome_getElem?, Option.isSome_iff_exists, List.mem_iff_getElem?]
  exact exists_congr (h id)

/-- What is not in the index is not among the identifiers. -/
theorem getElem?_eq_none_iff (h : IsIndex index ids) : index[id]? = none ↔ id ∉ ids := by
  rw [← h.contains_iff, Std.HashMap.contains_eq_isSome_getElem?]
  cases index[id]? <;> simp

/-- Nothing is indexed by nothing. -/
theorem empty : IsIndex ∅ [] := by
  intro id i
  simp

/-- A new identifier at the end is indexed at the position that was free. -/
theorem append (h : IsIndex index ids) (hid : id ∉ ids) :
    IsIndex (index.insert id ids.length) (ids ++ [id]) := by
  intro id' i
  rw [Std.HashMap.getElem?_insert]
  by_cases he : id = id'
  · subst he
    rw [if_pos (by simp)]
    constructor
    · rintro ⟨⟩
      simp
    · intro hi
      rcases Nat.lt_or_ge i ids.length with hlt | hge
      · rw [List.getElem?_append_left hlt] at hi
        exact absurd (List.mem_of_getElem? hi) hid
      · have := (List.getElem?_eq_some_iff.mp hi).1
        rw [List.length_append, List.length_singleton] at this
        exact congrArg some (by omega)
  · rw [if_neg (by simpa using he), h id' i]
    rcases Nat.lt_or_ge i ids.length with hlt | hge
    · rw [List.getElem?_append_left hlt]
    · rw [List.getElem?_eq_none hge, List.getElem?_append_right hge]
      constructor
      · simp
      · intro hi
        exact absurd (List.mem_singleton.mp (List.mem_of_getElem? hi)).symm he

end IsIndex

/-- The last record is indexed last. -/
theorem positionsOf_append (rs : List Record) (r : Record) :
    positionsOf (rs ++ [r]) = (positionsOf rs).insert r.id rs.length := by
  simp [positionsOf, List.zipIdx_append]

/-- The index that is made of records is one if their identifiers are distinct. -/
theorem isIndex_positionsOf {rs : List Record} (h : (rs.map Record.id).Nodup) :
    IsIndex (positionsOf rs) (rs.map Record.id) := by
  induction rs using List.reverseRecOn with
  | nil => exact IsIndex.empty
  | append_singleton rs r ih =>
    rw [List.map_append] at h ⊢
    obtain ⟨hrs, -, hdisjoint⟩ := List.nodup_append.mp h
    have hid : r.id ∉ rs.map Record.id := fun hmem => hdisjoint _ hmem _ (by simp) rfl
    simpa [positionsOf_append] using (ih hrs).append hid

/-! ## Indexed stores -/

/-- The identifiers of the records, in the order of the store. -/
def ids (s : Store) : List String := s.records.map Record.id

/-- The index says truthfully where the records stand. -/
def Indexed (s : Store) : Prop := IsIndex s.positions s.ids

/-- An identifier stands where its record stands. -/
theorem getElem?_ids (s : Store) (i : Nat) : s.ids[i]? = s.records[i]?.map Record.id :=
  List.getElem?_map

/-- There is one for every record. -/
@[simp] theorem length_ids (s : Store) : s.ids.length = s.records.length := List.length_map ..

/-- What changes neither the identifiers nor the index keeps a store indexed. -/
theorem Indexed.of_ids_eq {s t : Store} (h : s.Indexed) (hids : t.ids = s.ids)
    (hpositions : t.positions = s.positions) : t.Indexed := by
  unfold Indexed
  rw [hids, hpositions]
  exact h

/-- An indexed store knows the identifiers of its records. -/
theorem Indexed.contains_iff {s : Store} (h : s.Indexed) {id : String} :
    s.contains id = true ↔ id ∈ s.ids := IsIndex.contains_iff h

/-- In an indexed store `get?` gives the record that carries an identifier. -/
theorem Indexed.get?_eq_some_iff {s : Store} (h : s.Indexed) {id : String} {r : Record} :
    s.get? id = some r ↔ r ∈ s.records ∧ r.id = id := by
  unfold get?
  rw [Option.bind_eq_some_iff]
  constructor
  · rintro ⟨i, hi, hr⟩
    have hid := (h id i).mp hi
    rw [getElem?_ids, hr] at hid
    exact ⟨List.mem_of_getElem? hr, Option.some.inj hid⟩
  · rintro ⟨hr, rfl⟩
    obtain ⟨i, hi⟩ := List.mem_iff_getElem?.mp hr
    exact ⟨i, (h r.id i).mpr (by rw [getElem?_ids, hi]; rfl), hi⟩

/-- In an indexed store `get?` gives nothing exactly if no record carries the identifier. -/
theorem Indexed.get?_eq_none_iff {s : Store} (h : s.Indexed) {id : String} :
    s.get? id = none ↔ ∀ r ∈ s.records, r.id ≠ id := by
  rw [Option.eq_none_iff_forall_ne_some]
  constructor
  · intro hnone r hr hid
    exact hnone r (h.get?_eq_some_iff.mpr ⟨hr, hid⟩)
  · intro hne r hr
    obtain ⟨hmem, hid⟩ := h.get?_eq_some_iff.mp hr
    exact hne r hmem hid

/-! ## Changes of records -/

/-- Changing the record at a position keeps the identifiers if the change keeps that of the
record. -/
theorem map_id_modify {f : Record → Record} (hf : ∀ r, (f r).id = r.id) (rs : List Record)
    (i : Nat) : (rs.modify i f).map Record.id = rs.map Record.id := by
  apply List.ext_getElem?
  intro j
  rw [List.getElem?_map, List.getElem?_map, List.getElem?_modify]
  cases rs[j]? with
  | none => rfl
  | some r => by_cases hij : i = j <;> simp [hij, hf]

/-- A change of a record leaves the index. -/
@[simp] theorem positions_modify (s : Store) (id : String) (f : Record → Record) :
    (s.modify id f).positions = s.positions := by
  unfold modify
  cases s.positions[id]? <;> rfl

/-- It leaves the view, too. -/
@[simp] theorem view_modify (s : Store) (id : String) (f : Record → Record) :
    (s.modify id f).view = s.view := by
  unfold modify
  cases s.positions[id]? <;> rfl

/-- A change that keeps identifiers keeps all of them. -/
theorem ids_modify {f : Record → Record} (hf : ∀ r, (f r).id = r.id) (s : Store) (id : String) :
    (s.modify id f).ids = s.ids := by
  unfold modify
  cases s.positions[id]? with
  | none => rfl
  | some i => exact map_id_modify hf s.records i

/-- The index stays truthful under such a change. -/
theorem Indexed.modify {s : Store} (h : s.Indexed) (id : String) {f : Record → Record}
    (hf : ∀ r, (f r).id = r.id) : (s.modify id f).Indexed :=
  h.of_ids_eq (ids_modify hf s id) (positions_modify s id f)

/-- It stays so when a record is inserted. -/
theorem Indexed.insert {s : Store} (h : s.Indexed) (r : Record) : (s.insert r).Indexed := by
  unfold Store.insert
  cases hi : s.positions[r.id]? with
  | none =>
    have hid : r.id ∉ s.ids := h.getElem?_eq_none_iff.mp hi
    have := h.append hid
    rw [length_ids] at this
    simpa [Indexed, ids] using this
  | some i =>
    -- the new record carries the identifier of the one whose place it takes
    refine h.of_ids_eq ?_ rfl
    have hid := (h r.id i).mp hi
    obtain ⟨hlt, hget⟩ := List.getElem?_eq_some_iff.mp hid
    change (s.records.set i r).map Record.id = s.records.map Record.id
    rw [List.map_set, ← hget]
    exact List.set_getElem_self hlt

/-! ## The view -/

/-- Searching again keeps the identifiers. -/
@[simp] theorem ids_refresh (s : Store) : s.refresh.ids = s.ids := by
  simp [refresh, sortView, ids, Function.comp_def, Criteria.mark, Record.setHit]

/-- It keeps the index. -/
@[simp] theorem positions_refresh (s : Store) : s.refresh.positions = s.positions := rfl

/-- So the index stays truthful. -/
theorem Indexed.refresh {s : Store} (h : s.Indexed) : s.refresh.Indexed :=
  h.of_ids_eq (ids_refresh s) (positions_refresh s)

/-! ## Merges and selections -/

/-- The index of the empty store is truthful. -/
theorem indexed_empty : empty.Indexed := IsIndex.empty

/-- It stays truthful when some records are inserted. -/
theorem indexed_foldl_insert (rs : List Record) {s : Store} (h : s.Indexed) :
    (rs.foldl Store.insert s).Indexed := by
  induction rs generalizing s with
  | nil => exact h
  | cons r rs ih => exact ih (h.insert r)

/-- It stays so when an item is merged. -/
theorem Indexed.mergeItem {s : Store} (h : s.Indexed) (now : Timestamp) (item : ListingItem) :
    (s.mergeItem now item).Indexed := by
  unfold Store.mergeItem
  split_ifs
  · exact h.modify _ fun r => rfl
  · exact h.insert _

/-- It stays so when some items are merged. -/
theorem Indexed.mergeItems {s : Store} (h : s.Indexed) (clock : Clock) (reading : Nat)
    (counts : ListingCounts) (items : List ListingItem) :
    (s.mergeItems clock reading counts items).1.Indexed := by
  induction items generalizing s reading counts with
  | nil => exact h
  | cons item items ih => exact ih (h.mergeItem _ _) _ _

/-- No setter changes the identifier. -/
@[simp] theorem id_setContent (r : Record) (content : String) :
    (r.setContent content).id = r.id := by
  unfold Record.setContent
  split <;> rfl

/-- It stays so when contents are merged. -/
theorem Indexed.mergeContents {s : Store} (h : s.Indexed) (count : Nat)
    (contents : List (String × String)) : (s.mergeContents count contents).1.Indexed := by
  induction contents generalizing s count with
  | nil => exact h
  | cons entry rest ih =>
    obtain ⟨id, content⟩ := entry
    rw [Store.mergeContents]
    split_ifs
    · exact ih (h.modify id fun r => id_setContent r content) _
    · exact ih h _

/-- What is left after a deletion is indexed anew. -/
theorem Indexed.keep {s : Store} (h : s.Indexed) (p : Record → Bool) :
    Indexed { s with
      records := s.records.filter p
      positions := positionsOf (s.records.filter p) } :=
  isIndex_positionsOf (h.nodup.sublist (List.filter_sublist.map Record.id))

/-- Selecting what is visible keeps the identifiers. -/
theorem ids_selectVisible (s : Store) : s.selectVisible.ids = s.ids := by
  have hid : ∀ r : Record, (r.setSelected true).id = r.id := fun r => rfl
  have hfold : ∀ (view : List Nat) (rs : List Record),
      (view.foldl (fun rs i => rs.modify i (·.setSelected true)) rs).map Record.id =
        rs.map Record.id := by
    intro view
    induction view with
    | nil => exact fun rs => rfl
    | cons i view ih => exact fun rs => (ih _).trans (map_id_modify hid rs i)
  exact hfold s.view s.records

/-- So does clearing the selection. -/
theorem ids_clearSelection (s : Store) : s.clearSelection.ids = s.ids := by
  simp [clearSelection, ids, Function.comp_def, Record.setSelected]

end ChatArchive.Store
