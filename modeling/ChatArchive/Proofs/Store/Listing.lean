import ChatArchive.Proofs.Store.Restore

/-!
# Merging a listing

What the merge of a listing makes of a store: known records stay in their places and get title and
time of the last item with their identifier, and every other identifier gets a record at the end,
in the order in which they come up.  `Merged` says this of the items that were merged so far; one
more item keeps it (`Merged.mergeItem`), and so it holds behind all of them (`merged_mergeItems`).
-/

namespace ChatArchive

/-- A record with the title and the time of an item. -/
def Record.relist (item : ListingItem) (now : Timestamp) (r : Record) : Record :=
  (r.setTitle item.title).setUpdatedAt (item.timeAt now)

/-- The record of an item with an identifier that was not known. -/
def ListingItem.record (item : ListingItem) (now : Timestamp) : Record :=
  Record.ofListing item.id item.title (item.timeAt now)

/-- A record of an earlier item becomes that of a later one. -/
theorem Record.relist_record {x y : ListingItem} (hid : y.id = x.id) (before now : Timestamp) :
    (y.record before).relist x now = x.record now := by
  unfold ListingItem.record
  rw [hid]
  rfl

/-! ## The last item with an identifier -/

/-- The last item with an identifier, and its number in the listing. -/
def lastListed (items : List ListingItem) (id : String) : Option (ListingItem × Nat) :=
  items.zipIdx.reverse.find? fun entry => entry.1.id == id

/-- The last item counts if it has the identifier. -/
theorem lastListed_concat (items : List ListingItem) (x : ListingItem) (id : String) :
    lastListed (items ++ [x]) id =
      if id = x.id then some (x, items.length) else lastListed items id := by
  rw [lastListed, List.zipIdx_append, List.reverse_append, Nat.zero_add]
  show List.find? _ ((x, items.length) :: items.zipIdx.reverse) = _
  rw [List.find?_cons]
  split_ifs with hid
  · rw [beq_iff_eq.mpr hid.symm]
  · rw [beq_eq_false_iff_ne.mpr (Ne.symm hid)]
    rfl

/-- It is the last one of the items. -/
theorem map_fst_lastListed (items : List ListingItem) (id : String) :
    (lastListed items id).map Prod.fst = items.reverse.find? fun item => item.id == id := by
  conv_rhs => rw [← List.zipIdx_map_fst 0 items, ← List.map_reverse, List.find?_map]
  rfl

/-- The item that counts has the identifier. -/
theorem id_of_lastListed {items : List ListingItem} {id : String} {item : ListingItem} {i : Nat}
    (h : lastListed items id = some (item, i)) : item.id = id := by
  simpa using List.find?_some h

/-- No item counts if none has the identifier. -/
theorem lastListed_eq_none_iff {items : List ListingItem} {id : String} :
    lastListed items id = none ↔ id ∉ items.map ListingItem.id := by
  rw [← Option.map_eq_none_iff (f := Prod.fst), map_fst_lastListed, List.find?_eq_none]
  simp [List.mem_map]

/-- One counts if some have it. -/
theorem exists_lastListed {items : List ListingItem} {id : String}
    (h : id ∈ items.map ListingItem.id) : ∃ item i, lastListed items id = some (item, i) := by
  obtain ⟨⟨item, i⟩, hlast⟩ :=
    Option.ne_none_iff_exists'.mp (mt lastListed_eq_none_iff.mp (not_not.mpr h))
  exact ⟨item, i, hlast⟩

/-- A record after a listing: the last item with its identifier gives title and time. -/
def Record.relistFrom (clock : Clock) (items : List ListingItem) (r : Record) : Record :=
  match lastListed items r.id with
  | some (item, i) => r.relist item (clock i)
  | none => r

/-- A listing keeps the identifier of a record. -/
@[simp] theorem Record.id_relistFrom (clock : Clock) (items : List ListingItem) (r : Record) :
    (r.relistFrom clock items).id = r.id := by
  unfold relistFrom
  split <;> rfl

/-- An item takes the place of those before it. -/
theorem Record.relistFrom_concat (clock : Clock) (items : List ListingItem) (x : ListingItem)
    (r : Record) : r.relistFrom clock (items ++ [x]) =
      if r.id = x.id then (r.relistFrom clock items).relist x (clock items.length)
      else r.relistFrom clock items := by
  unfold relistFrom
  rw [lastListed_concat]
  split_ifs with hid
  · cases lastListed items r.id <;> rfl
  · rfl

namespace Store

/-! ## One item -/

/-- An item changes the record that has its identifier, or comes behind all of them. -/
theorem records_mergeItem {s : Store} (hs : s.Indexed) (now : Timestamp) (item : ListingItem) :
    (s.mergeItem now item).records =
      if item.id ∈ s.ids then s.records.map fun r => if r.id = item.id then r.relist item now else r
      else s.records ++ [item.record now] := by
  rw [mergeItem]
  simp only [hs.contains_iff]
  split_ifs with hknown
  · exact records_modify hs item.id _
  · exact records_insert_of_not_mem hs hknown

/-- It adds its identifier if that is new. -/
theorem ids_mergeItem {s : Store} (hs : s.Indexed) (now : Timestamp) (item : ListingItem) :
    (s.mergeItem now item).ids = if item.id ∈ s.ids then s.ids else s.ids ++ [item.id] := by
  rw [ids, records_mergeItem hs]
  split_ifs with hknown
  · rw [List.map_map]
    refine List.map_congr_left fun r _ => ?_
    show (if r.id = item.id then r.relist item now else r).id = r.id
    split_ifs <;> rfl
  · rw [List.map_append]
    rfl

/-! ## All items -/

/-- The last of some items is merged last. -/
theorem mergeItems_concat (s : Store) (clock : Clock) (reading : Nat) (counts : ListingCounts)
    (items : List ListingItem) (x : ListingItem) :
    (s.mergeItems clock reading counts (items ++ [x])).1 =
      (s.mergeItems clock reading counts items).1.mergeItem (clock (reading + items.length)) x := by
  induction items generalizing s reading counts with
  | nil => rfl
  | cons item items ih =>
    rw [List.cons_append, mergeItems, ih, mergeItems, List.length_cons, Nat.add_right_comm,
      Nat.add_assoc]

/-- A store `t` that has become of a store `s` by the merge of some items. -/
structure Merged (clock : Clock) (items : List ListingItem) (s t : Store) : Prop where
  indexed : t.Indexed
  ids_eq : t.ids = (s.ids ++ items.map ListingItem.id).eraseDups
  /-- Known records stay in their places. -/
  known : ∀ (i : Nat) (r : Record), s.records[i]? = some r →
    t.records[i]? = some (r.relistFrom clock items)
  /-- Other items have records of their own. -/
  new : ∀ (id : String) (item : ListingItem) (i : Nat), id ∉ s.ids →
    lastListed items id = some (item, i) → item.record (clock i) ∈ t.records

namespace Merged

variable {clock : Clock} {items : List ListingItem} {s t : Store}

/-- Nothing is merged by no items. -/
theorem refl (clock : Clock) (hs : s.Indexed) : Merged clock [] s s where
  indexed := hs
  ids_eq := by
    rw [List.map_nil, List.append_nil]
    exact (eraseDups_of_nodup hs.nodup).symm
  known := fun _ _ hr => hr
  new := fun _ _ _ _ hlisted => nomatch hlisted

/-- The identifiers afterwards are those before and those of the items. -/
theorem mem_ids_iff (h : Merged clock items s t) {id : String} :
    id ∈ t.ids ↔ id ∈ s.ids ∨ id ∈ items.map ListingItem.id := by
  rw [h.ids_eq, List.mem_eraseDups, List.mem_append]

/-- One more item. -/
theorem mergeItem (h : Merged clock items s t) (x : ListingItem) :
    Merged clock (items ++ [x]) s (t.mergeItem (clock items.length) x) where
  indexed := h.indexed.mergeItem _ x
  ids_eq := by
    rw [ids_mergeItem h.indexed, List.map_append, List.map_singleton, ← List.append_assoc,
      eraseDups_concat, ← h.ids_eq]
    simp only [h.mem_ids_iff, List.mem_append]
  known := by
    intro i r hr
    have hbefore := h.known i r hr
    rw [records_mergeItem h.indexed, Record.relistFrom_concat]
    split_ifs with hknown hid hid
    · rw [List.getElem?_map, hbefore, Option.map_some, Record.id_relistFrom, if_pos hid]
    · rw [List.getElem?_map, hbefore, Option.map_some, Record.id_relistFrom, if_neg hid]
    · have hmem : r.id ∈ s.ids := List.mem_map_of_mem (List.mem_of_getElem? hr)
      exact absurd (h.mem_ids_iff.mpr (.inl (hid ▸ hmem))) hknown
    · rw [List.getElem?_append_left (List.getElem?_eq_some_iff.mp hbefore).1, hbefore]
  new := by
    intro id item i hnew hlisted
    rw [lastListed_concat] at hlisted
    rw [records_mergeItem h.indexed]
    split_ifs at hlisted with hid
    · -- the item is the last one itself; an earlier one may have made the record known
      obtain ⟨rfl, rfl⟩ : x = item ∧ items.length = i := by simpa using hlisted
      split_ifs with hknown
      · have hearlier : x.id ∈ items.map ListingItem.id :=
          (h.mem_ids_iff.mp hknown).resolve_left (hid ▸ hnew)
        obtain ⟨y, j, hy⟩ := exists_lastListed hearlier
        have hyid := id_of_lastListed hy
        have hrelist := Record.relist_record hyid (clock j) (clock items.length)
        exact List.mem_map.mpr
          ⟨_, h.new x.id y j (hid ▸ hnew) hy, (if_pos hyid).trans hrelist⟩
      · exact List.mem_append_right _ (List.mem_singleton_self _)
    · have hbefore := h.new id item i hnew hlisted
      have hne : item.id ≠ x.id := id_of_lastListed hlisted ▸ hid
      split_ifs with hknown
      · exact List.mem_map.mpr ⟨_, hbefore, if_neg hne⟩
      · exact List.mem_append_left _ hbefore

end Merged

/-- What merging items makes of a store. -/
theorem merged_mergeItems {s : Store} (hs : s.Indexed) (clock : Clock) (counts : ListingCounts)
    (items : List ListingItem) :
    Merged clock items s (s.mergeItems clock 0 counts items).1 := by
  induction items using List.reverseRecOn with
  | nil => exact .refl clock hs
  | append_singleton items x ih =>
    rw [mergeItems_concat, Nat.zero_add]
    exact ih.mergeItem x

/-- An item makes the store grow if its identifier is new. -/
theorem size_mergeItem {s : Store} (hs : s.Indexed) (now : Timestamp) (item : ListingItem) :
    (s.mergeItem now item).size = if item.id ∈ s.ids then s.size else s.size + 1 := by
  rw [size, ← length_ids, ids_mergeItem hs]
  split_ifs <;> simp [size]

/-- Every item counts, as a new one if it makes the store grow. -/
theorem counts_mergeItems {s : Store} (hs : s.Indexed) (clock : Clock) (reading : Nat)
    (counts : ListingCounts) (items : List ListingItem) :
    let merged := s.mergeItems clock reading counts items
    merged.1.size + counts.added = s.size + merged.2.added ∧
      merged.2.added + merged.2.updated = counts.added + counts.updated + items.length := by
  induction items generalizing s reading counts with
  | nil => exact ⟨rfl, rfl⟩
  | cons item items ih =>
    have hsize := size_mergeItem hs (clock reading) item
    simp only [mergeItems, hs.contains_iff, List.length_cons]
    split_ifs at hsize ⊢ with hknown
    · obtain ⟨hgrown, hall⟩ := ih (hs.mergeItem (clock reading) item) (reading + 1)
        { counts with updated := counts.updated + 1 }
      dsimp only at hgrown hall ⊢
      omega
    · obtain ⟨hgrown, hall⟩ := ih (hs.mergeItem (clock reading) item) (reading + 1)
        { counts with added := counts.added + 1 }
      dsimp only at hgrown hall ⊢
      omega

/-- Searching again keeps the number of records. -/
@[simp] theorem size_refresh (s : Store) : s.refresh.size = s.size := by
  rw [size, ← length_ids, ids_refresh, length_ids, size]

/-- The store grows by what is counted as added, and every item is counted. -/
theorem counts_mergeListing {s : Store} (hs : s.Indexed) (clock : Clock)
    (items : List ListingItem) :
    let merged := s.mergeListing clock items
    merged.1.size = s.size + merged.2.added ∧
      merged.2.added + merged.2.updated = items.length := by
  intro merged
  obtain ⟨hgrown, hall⟩ := counts_mergeItems hs clock 0 ⟨0, 0⟩ items
  rw [Nat.add_zero, Nat.zero_add] at hall
  refine ⟨?_, hall⟩
  show (s.mergeItems clock 0 ⟨0, 0⟩ items).1.refresh.size = _
  rw [size_refresh]
  exact hgrown

/-! ## Listings of which the first items count -/

/-- A store that has become of a store by a listing, where the first item with an identifier
counts.  What the filter of the store finds is noted on every record. -/
structure Relisted (clock : Clock) (items : List ListingItem) (before after : Store) : Prop where
  /-- New identifiers come behind those of the store, in the order in which they come up. -/
  ids_eq : after.ids = (before.ids ++ items.map ListingItem.id).eraseDups
  /-- Records that are not listed stay as they are. -/
  unlisted : ∀ (i : Nat) (r : Record), before.records[i]? = some r →
    r.id ∉ items.map ListingItem.id → after.records[i]? = some (before.criteria.mark r)
  /-- Records that are listed get another title and time. -/
  known : ∀ (i : Nat) (r : Record) (item : ListingItem), before.records[i]? = some r →
    items.find? (fun x => x.id == r.id) = some item →
      ∃ reading, after.records[i]? = some (before.criteria.mark (r.relist item (clock reading)))
  /-- Other items that are listed have records of their own. -/
  new : ∀ (id : String) (item : ListingItem), id ∉ before.ids →
    items.find? (fun x => x.id == id) = some item →
      ∃ reading, after.get? id = some (before.criteria.mark (item.record (clock reading)))

/-- Of the first items of each identifier, the only one with an identifier counts for it. -/
theorem exists_lastListed_firstOfEach {items : List ListingItem} {id : String} {item : ListingItem}
    (hfirst : items.find? (fun x => x.id == id) = some item) :
    ∃ i, lastListed (firstOfEach ListingItem.id items) id = some (item, i) := by
  have hlast := map_fst_lastListed (firstOfEach ListingItem.id items) id
  rw [find?_reverse_firstOfEach, hfirst] at hlast
  obtain ⟨⟨item', i⟩, hlisted, rfl⟩ := Option.map_eq_some_iff.mp hlast
  exact ⟨i, hlisted⟩

/-- Merging the first items of each identifier is a listing where the first item counts. -/
theorem relisted_mergeListing {s : Store} (hs : s.Indexed) (clock : Clock)
    (items : List ListingItem) :
    Relisted clock items s (s.mergeListing clock (firstOfEach ListingItem.id items)).1 := by
  let merged := (s.mergeItems clock 0 ⟨0, 0⟩ (firstOfEach ListingItem.id items)).1
  have hmerged : Merged clock (firstOfEach ListingItem.id items) s merged :=
    merged_mergeItems hs clock ⟨0, 0⟩ _
  have hcriteria : merged.criteria = s.criteria := criteria_mergeItems s clock 0 _ _
  have hafter : (s.mergeListing clock (firstOfEach ListingItem.id items)).1 = merged.refresh := rfl
  rw [hafter]
  constructor
  · rw [ids_refresh, hmerged.ids_eq, map_key_firstOfEach, eraseDups_append_eraseDups]
  · intro i r hr hunlisted
    have hnone : lastListed (firstOfEach ListingItem.id items) r.id = none := by
      rwa [lastListed_eq_none_iff, map_key_firstOfEach, List.mem_eraseDups]
    rw [getElem?_records_refresh, hmerged.known i r hr, hcriteria, Record.relistFrom, hnone]
    rfl
  · intro i r item hr hfirst
    obtain ⟨j, hlisted⟩ := exists_lastListed_firstOfEach hfirst
    refine ⟨j, ?_⟩
    rw [getElem?_records_refresh, hmerged.known i r hr, hcriteria, Record.relistFrom, hlisted]
    rfl
  · intro id item hnew hfirst
    obtain ⟨j, hlisted⟩ := exists_lastListed_firstOfEach hfirst
    refine ⟨j, hmerged.indexed.refresh.get?_eq_some_iff.mpr ⟨?_, id_of_lastListed hlisted⟩⟩
    rw [← hcriteria]
    exact List.mem_map_of_mem (hmerged.new id item j hnew hlisted)

end Store

end ChatArchive
