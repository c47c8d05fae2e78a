import ChatArchive.Proofs.Store.Keys
import ChatArchive.Proofs.Store.View

/-!
# Putting records and contents into a store

A store of some records holds the last of each identifier (`records_ofRecords_eq`), and of several
contents for one record the last that is not empty is the one that it keeps
(`records_mergeContent`).  Where nothing is repeated these are all of the records
(`records_ofRecords`) and all of the contents (`mergeContent_eq`).
-/

namespace ChatArchive

/-! ## Records without a filter -/

/-- A search that looks for no place notes nothing. -/
theorem Criteria.mark_of_not_located {c : Criteria} (hc : ¬ c.query.mode.IsLocated) {r : Record}
    (h : r.hit = none) : c.mark r = r := by
  have hverdict : (c.verdict r).hit? = none :=
    Criteria.hit?_verdict_eq_none fun hlocated => hc hlocated.2
  rw [Criteria.mark, hverdict, Record.setHit, ← h]

/-- Without a filter nothing is noted. -/
theorem Criteria.mark_empty {r : Record} (h : r.hit = none) : Criteria.empty.mark r = r :=
  Criteria.mark_of_not_located id h

namespace Store

/-- The records of a refreshed store without a filter stay as they are if nothing is noted on
them. -/
theorem records_refresh_of_empty {s : Store} (hc : s.criteria = Criteria.empty)
    (hhit : ∀ r ∈ s.records, r.hit = none) : s.refresh.records = s.records := by
  have hmark : ∀ r ∈ s.records, s.criteria.mark r = id r := by
    intro r hr
    rw [hc]
    exact Criteria.mark_empty (hhit r hr)
  exact (List.map_congr_left hmark).trans (List.map_id _)

/-! ## Records -/

/-- In an indexed store the records that change are those with the identifier. -/
theorem records_modify {s : Store} (hs : s.Indexed) (id : String) (f : Record → Record) :
    (s.modify id f).records = s.records.map fun r => if r.id = id then f r else r := by
  apply List.ext_getElem?
  intro j
  rw [List.getElem?_map]
  unfold modify
  cases hi : s.positions[id]? with
  | none =>
    have hne : ∀ r ∈ s.records, r.id ≠ id := by
      intro r hr hid
      exact hs.getElem?_eq_none_iff.mp hi (hid ▸ List.mem_map_of_mem hr)
    cases hj : s.records[j]? with
    | none => rfl
    | some r => simp [hne r (List.mem_of_getElem? hj)]
  | some i =>
    rw [List.getElem?_modify]
    cases hj : s.records[j]? with
    | none => rfl
    | some r =>
      have hid : r.id = id ↔ i = j := by
        have hindex := hs id j
        rw [hi, getElem?_ids, hj] at hindex
        simpa [eq_comm] using hindex.symm
      by_cases hij : i = j <;> simp [hij, hid]

/-- A record with a new identifier comes behind the others. -/
theorem records_insert_of_not_mem {s : Store} (hs : s.Indexed) {r : Record} (hr : r.id ∉ s.ids) :
    (s.insert r).records = s.records ++ [r] := by
  unfold insert
  rw [hs.getElem?_eq_none_iff.mpr hr]

/-- A record with a known one takes the place of that. -/
theorem records_insert_of_mem {s : Store} (hs : s.Indexed) {r : Record} (hr : r.id ∈ s.ids) :
    (s.insert r).records = s.records.map fun a => if a.id = r.id then r else a := by
  have hsame : s.insert r = s.modify r.id fun _ => r := by
    unfold insert modify
    cases hi : s.positions[r.id]? with
    | none => exact absurd hr (hs.getElem?_eq_none_iff.mp hi)
    | some i => simp only [List.set_eq_modify]
  rw [hsame, records_modify hs]

/-- Of inserted records the last of each identifier is left, at the place of the first. -/
theorem records_foldl_insert_empty (rs : List Record) :
    (rs.foldl insert empty).records = lastOfEach Record.id rs := by
  induction rs using List.reverseRecOn with
  | nil => rfl
  | append_singleton rs r ih =>
    have hs : (rs.foldl insert empty).Indexed := indexed_foldl_insert rs indexed_empty
    have hids : r.id ∈ (rs.foldl insert empty).ids ↔ r.id ∈ rs.map Record.id := by
      rw [ids, ih, map_key_lastOfEach, List.mem_eraseDups]
    rw [List.foldl_append, List.foldl_cons, List.foldl_nil, lastOfEach_concat, ← ih]
    split_ifs with hr
    · exact records_insert_of_mem hs (hids.mpr hr)
    · exact records_insert_of_not_mem hs (mt hids.mp hr)

/-- A store of some records holds the last of each identifier. -/
theorem records_ofRecords_eq {rs : List Record} (hhit : ∀ r ∈ rs, r.hit = none) :
    (ofRecords rs).records = lastOfEach Record.id rs := by
  rw [ofRecords, records_refresh_of_empty (criteria_foldl_insert rs empty),
    records_foldl_insert_empty]
  rw [records_foldl_insert_empty]
  exact fun r hr => hhit r (mem_of_mem_lastOfEach hr)

/-- A store of records with distinct identifiers has just these, in their order. -/
theorem records_ofRecords {rs : List Record} (hnodup : (rs.map Record.id).Nodup)
    (hhit : ∀ r ∈ rs, r.hit = none) : (ofRecords rs).records = rs := by
  rw [records_ofRecords_eq hhit, lastOfEach_of_nodup hnodup]

/-- In a store of some records there are just these, up to what the filter notes on them. -/
theorem exists_of_mem_ofRecords {rs : List Record} {a : Record} (ha : a ∈ (ofRecords rs).records) :
    ∃ r ∈ rs, a = Criteria.empty.mark r := by
  obtain ⟨r, hr, rfl⟩ := List.mem_map.mp ha
  rw [criteria_foldl_insert]
  rw [records_foldl_insert_empty] at hr
  exact ⟨r, mem_of_mem_lastOfEach hr, rfl⟩

/-- A record that is inserted keeps the order of the view. -/
theorem order_insert (s : Store) (r : Record) : (s.insert r).order = s.order := by
  unfold insert
  cases s.positions[r.id]? <;> rfl

/-- So do some records. -/
theorem order_foldl_insert (rs : List Record) (s : Store) :
    (rs.foldl insert s).order = s.order := by
  induction rs generalizing s with
  | nil => rfl
  | cons r rs ih => exact (ih _).trans (order_insert s r)

/-- A store of some records shows the newest first. -/
theorem order_ofRecords (rs : List Record) : (ofRecords rs).order = .newest :=
  order_foldl_insert rs empty

/-- It has no filter. -/
theorem criteria_ofRecords (rs : List Record) : (ofRecords rs).criteria = Criteria.empty :=
  criteria_foldl_insert rs empty

/-- Its index is truthful. -/
theorem indexed_ofRecords (rs : List Record) : (ofRecords rs).Indexed :=
  (indexed_foldl_insert rs indexed_empty).refresh

/-- Records with distinct identifiers are found in their store. -/
theorem get?_ofRecords {rs : List Record} (hnodup : (rs.map Record.id).Nodup)
    (hhit : ∀ r ∈ rs, r.hit = none) {r : Record} (hr : r ∈ rs) :
    (ofRecords rs).get? r.id = some r := by
  rw [(indexed_ofRecords rs).get?_eq_some_iff, records_ofRecords hnodup hhit]
  exact ⟨hr, rfl⟩

/-- Two records without content, of which the second may be selected. -/
def twoRecords (selected : Bool) : List Record :=
  [Record.ofListing "a" "One" Timestamp.epoch,
    (Record.ofListing "b" "Two" Timestamp.epoch).setSelected selected]

/-- Their identifiers are distinct. -/
theorem nodup_twoRecords (selected : Bool) : ((twoRecords selected).map Record.id).Nodup := by
  cases selected <;> decide

/-- Nothing is noted on them. -/
theorem hit_twoRecords (selected : Bool) : ∀ r ∈ twoRecords selected, r.hit = none := by
  simp [twoRecords, Record.ofListing, Record.setSelected]

/-- Their store has just these. -/
theorem records_twoRecords (selected : Bool) :
    (ofRecords (twoRecords selected)).records = twoRecords selected :=
  records_ofRecords (nodup_twoRecords selected) (hit_twoRecords selected)

/-- The identifiers of their store. -/
theorem ids_twoRecords (selected : Bool) : (ofRecords (twoRecords selected)).ids = ["a", "b"] := by
  rw [ids, records_twoRecords]
  rfl

/-- They are found in their store. -/
theorem get?_twoRecords {selected : Bool} {r : Record} (hr : r ∈ twoRecords selected) :
    (ofRecords (twoRecords selected)).get? r.id = some r :=
  get?_ofRecords (nodup_twoRecords selected) (hit_twoRecords selected) hr

end Store

/-! ## Contents -/

/-- A record with the content that some contents have for it. -/
def Record.fill (contents : List (String × String)) (r : Record) : Record :=
  match contents.lookup r.id with
  | some text => r.setContent text
  | none => r

/-- Without contents a record is left as it is. -/
@[simp] theorem Record.fill_nil (r : Record) : r.fill [] = r := rfl

/-- Content changes nothing of what was found. -/
theorem Record.hit_fill (contents : List (String × String)) (r : Record) :
    (r.fill contents).hit = r.hit := by
  unfold fill setContent
  repeat' split
  all_goals rfl

/-- The contents that count for a lookup: those that are not empty, the last one first. -/
def lastTexts (contents : List (String × String)) : List (String × String) :=
  (contents.filter fun c => c.2 ≠ "").reverse

/-- The last texts are not empty. -/
theorem text_ne_of_mem_lastTexts {contents : List (String × String)} {c : String × String}
    (hc : c ∈ lastTexts contents) : c.2 ≠ "" := by
  simpa using (List.mem_filter.mp (List.mem_reverse.mp hc)).2

/-- A text that is not empty becomes the content. -/
theorem Record.contentText?_setContent (r : Record) {text : String} (htext : text ≠ "") :
    (r.setContent text).contentText? = some text := by
  unfold setContent Content.ofString?
  rw [dif_neg htext]
  rfl

/-- A record is indexed exactly if it has content. -/
theorem Record.isIndexed_eq_isSome (r : Record) : r.isIndexed = r.contentText?.isSome :=
  r.isIndexed_eq.trans (Option.isSome_map ..).symm

/-- A record has the content that the contents have for it, or else the one that it had. -/
theorem Record.contentText?_fill {contents : List (String × String)}
    (htexts : ∀ c ∈ contents, c.2 ≠ "") (r : Record) :
    (r.fill contents).contentText? = (contents.lookup r.id).or r.contentText? := by
  unfold fill
  cases hlookup : contents.lookup r.id with
  | none => rfl
  | some text =>
    obtain ⟨before, after, rfl, -⟩ := List.lookup_eq_some_iff.mp hlookup
    exact r.contentText?_setContent (htexts (r.id, text) (by simp))

/-- Content keeps the identifier. -/
@[simp] theorem Record.id_fill (contents : List (String × String)) (r : Record) :
    (r.fill contents).id = r.id := by
  unfold fill
  split <;> simp

/-- Content takes the place of other content. -/
theorem Record.setContent_setContent (r : Record) (before : String) {text : String}
    (htext : text ≠ "") : (r.setContent before).setContent text = r.setContent text := by
  unfold setContent Content.ofString?
  rw [dif_neg htext]
  split_ifs <;> rfl

/-- An earlier content is one that others may take the place of. -/
theorem Record.fill_concat {contents : List (String × String)} (htexts : ∀ c ∈ contents, c.2 ≠ "")
    (id text : String) (r : Record) :
    r.fill (contents ++ [(id, text)]) =
      Record.fill contents (if r.id = id then r.setContent text else r) := by
  have hid : (if r.id = id then r.setContent text else r).id = r.id := by
    split_ifs <;> simp
  unfold fill
  rw [List.lookup_append, hid]
  cases hlookup : contents.lookup r.id with
  | none =>
    rw [Option.none_or, List.lookup_cons]
    split_ifs with h
    · simp [h]
    · simp [beq_eq_false_iff_ne.mpr h]
  | some found =>
    obtain ⟨before, after, rfl, -⟩ := List.lookup_eq_some_iff.mp hlookup
    have hfound : found ≠ "" := htexts (r.id, found) (by simp)
    rw [Option.some_or]
    split_ifs
    · exact (r.setContent_setContent text hfound).symm
    · rfl

/-- Where no key is repeated a lookup finds what the list holds. -/
theorem lookup_eq_some_iff_of_nodup {entries : List (String × String)}
    (hnodup : (entries.map (·.1)).Nodup) {key value : String} :
    entries.lookup key = some value ↔ (key, value) ∈ entries := by
  induction entries with
  | nil => simp
  | cons e rest ih =>
    obtain ⟨k, v⟩ := e
    obtain ⟨hnew, hrest⟩ := List.nodup_cons.mp hnodup
    rw [List.lookup_cons, List.mem_cons, Prod.mk.injEq]
    by_cases hkey : key = k
    · have hother : (key, value) ∉ rest := by
        intro hmem
        have hmap : key ∈ rest.map (·.1) := List.mem_map_of_mem hmem
        exact hnew (hkey ▸ hmap)
      simp [hkey, hkey ▸ hother, eq_comm]
    · simp [beq_eq_false_iff_ne.mpr hkey, ih hrest, hkey]

/-- Where nothing is repeated and nothing is empty, all contents count. -/
theorem Record.fill_lastTexts {contents : List (String × String)}
    (hnodup : (contents.map (·.1)).Nodup) (htexts : ∀ c ∈ contents, c.2 ≠ "") :
    Record.fill (lastTexts contents) = Record.fill contents := by
  have hall : lastTexts contents = contents.reverse := by
    rw [lastTexts, List.filter_eq_self.mpr (by simpa using htexts)]
  have hreverse : (contents.reverse.map (·.1)).Nodup := by
    rw [List.map_reverse]
    exact List.nodup_reverse.mpr hnodup
  have hlookup : ∀ id, contents.reverse.lookup id = contents.lookup id := by
    intro id
    ext text
    rw [lookup_eq_some_iff_of_nodup hreverse, lookup_eq_some_iff_of_nodup hnodup,
      List.mem_reverse]
  funext r
  rw [hall, fill, fill, hlookup]

namespace Store

/-- A change of a record keeps the order of the view. -/
theorem order_modify (s : Store) (id : String) (f : Record → Record) :
    (s.modify id f).order = s.order := by
  unfold modify
  cases s.positions[id]? <;> rfl

/-- Every known record keeps the last content that is not empty, and these are counted. -/
theorem mergeContents_records (contents : List (String × String)) {s : Store} (hs : s.Indexed)
    (count : Nat) :
    (s.mergeContents count contents).1.records = s.records.map (Record.fill (lastTexts contents)) ∧
      (s.mergeContents count contents).2 =
        count + contents.countP fun c => c.2 ≠ "" ∧ c.1 ∈ s.ids := by
  induction contents generalizing s count with
  | nil => exact ⟨(List.map_id'' Record.fill_nil _).symm, rfl⟩
  | cons c rest ih =>
    obtain ⟨id, text⟩ := c
    have htexts : ∀ c ∈ lastTexts rest, c.2 ≠ "" := fun _ => text_ne_of_mem_lastTexts
    have hcontains : s.contains id = true ↔ id ∈ s.ids := hs.contains_iff
    rw [mergeContents]
    simp only [hcontains]
    by_cases htext : text = ""
    · have hskip : lastTexts ((id, text) :: rest) = lastTexts rest := by
        simp [lastTexts, htext]
      rw [if_neg (by simp [htext]), hskip, List.countP_cons_of_neg (by simp [htext])]
      exact ih hs count
    have hput : lastTexts ((id, text) :: rest) = lastTexts rest ++ [(id, text)] := by
      simp [lastTexts, htext]
    split_ifs with hknown
    · have hids := ids_modify (fun r => id_setContent r text) s id
      obtain ⟨hrecords, hcount⟩ := ih (hs.modify id fun r => id_setContent r text) (count + 1)
      refine ⟨?_, ?_⟩
      · rw [hrecords, hput, records_modify hs, List.map_map]
        exact List.map_congr_left fun r _ => (Record.fill_concat htexts id text r).symm
      · rw [hcount, hids, List.countP_cons_of_pos (by simpa using hknown)]
        omega
    · have hunknown : id ∉ s.ids := fun hmem => hknown ⟨htext, hmem⟩
      obtain ⟨hrecords, hcount⟩ := ih hs count
      refine ⟨?_, ?_⟩
      · rw [hrecords, hput]
        refine List.map_congr_left fun r hr => ?_
        have hne : r.id ≠ id := by
          rintro rfl
          exact hunknown (List.mem_map_of_mem hr)
        rw [Record.fill_concat htexts, if_neg hne]
      · rw [hcount, List.countP_cons_of_neg (by simpa using fun _ => hunknown)]

/-- After a merge every record has the last content that is not empty, and what the filter finds is
noted on it anew. -/
theorem records_mergeContent (contents : List (String × String)) {s : Store} (hs : s.Indexed) :
    (s.mergeContent contents).1.records =
      s.records.map fun r => s.criteria.mark (r.fill (lastTexts contents)) := by
  show (s.mergeContents 0 contents).1.records.map
    (s.mergeContents 0 contents).1.criteria.mark = _
  rw [(mergeContents_records contents hs 0).1, criteria_mergeContents, List.map_map]
  rfl

/-- Merging contents keeps the identifiers. -/
theorem ids_mergeContent (contents : List (String × String)) {s : Store} (hs : s.Indexed) :
    (s.mergeContent contents).1.ids = s.ids := by
  rw [ids, records_mergeContent contents hs, List.map_map]
  exact List.map_congr_left fun r _ => r.id_fill _

/-- The same of a merge into a store without a filter. -/
theorem mergeContent_records (contents : List (String × String)) {s : Store} (hs : s.Indexed)
    (hc : s.criteria = Criteria.empty) (hhit : ∀ r ∈ s.records, r.hit = none) :
    (s.mergeContent contents).1.records = s.records.map (Record.fill (lastTexts contents)) ∧
      (s.mergeContent contents).2 = contents.countP fun c => c.2 ≠ "" ∧ c.1 ∈ s.ids := by
  obtain ⟨-, hcount⟩ := mergeContents_records contents hs 0
  refine ⟨?_, hcount.trans (Nat.zero_add _)⟩
  rw [records_mergeContent contents hs, hc]
  exact List.map_congr_left fun r hr => Criteria.mark_empty ((r.hit_fill _).trans (hhit r hr))

/-- Contents that are not empty, of distinct known records, all count, and each of these records
gets its own. -/
theorem mergeContent_eq {contents : List (String × String)} {s : Store} (hs : s.Indexed)
    (hc : s.criteria = Criteria.empty) (hhit : ∀ r ∈ s.records, r.hit = none)
    (hnodup : (contents.map (·.1)).Nodup) (hknown : ∀ c ∈ contents, c.2 ≠ "" ∧ c.1 ∈ s.ids) :
    (s.mergeContent contents).1.records = s.records.map (Record.fill contents) ∧
      (s.mergeContent contents).2 = contents.length := by
  obtain ⟨hrecords, hcount⟩ := mergeContent_records contents hs hc hhit
  rw [hrecords, hcount, Record.fill_lastTexts hnodup fun c hmem => (hknown c hmem).1]
  exact ⟨rfl, List.countP_eq_length.mpr fun c hmem => decide_eq_true (hknown c hmem)⟩

/-- Contents that are merged keep the order of the view. -/
theorem order_mergeContents (s : Store) (count : Nat) (contents : List (String × String)) :
    (s.mergeContents count contents).1.order = s.order := by
  induction contents generalizing s count with
  | nil => rfl
  | cons c rest ih =>
    rw [mergeContents]
    split_ifs
    · exact (ih _ _).trans (order_modify s _ _)
    · exact ih _ _

/-- Merging contents keeps the criteria. -/
theorem criteria_mergeContent (s : Store) (contents : List (String × String)) :
    (s.mergeContent contents).1.criteria = s.criteria :=
  criteria_mergeContents s 0 contents

/-- It keeps the order of the view. -/
theorem order_mergeContent (s : Store) (contents : List (String × String)) :
    (s.mergeContent contents).1.order = s.order :=
  order_mergeContents s 0 contents

end Store

end ChatArchive
