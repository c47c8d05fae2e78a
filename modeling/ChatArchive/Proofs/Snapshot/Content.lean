import ChatArchive.Proofs.Store.Order
import ChatArchive.Snapshot.Content
import Mathlib.Data.List.Forall2
import Mathlib.Data.List.Nodup

/-!
# The contents of a snapshot

A snapshot keeps the content of the newest indexed records.  `IsNewestFirst` says what that order
is; sorting gives it (`isNewestFirst_mergeSort`), no other list of the records has it
(`IsNewestFirst.unique`), and a snapshot holds the beginning of that list (`entries_ofRecords`).

So the records with content fall into those that are kept, as many as the cap allows, and those
that are left out, which are no newer, and a higher cap only adds entries at the end
(`ContentSnapshot.kept_of_records`).
-/

namespace ChatArchive

/-! ## Newest first -/

section

variable {α : Type}

/-- Of two that stand in a list, each at one place, not both come before the other. -/
theorem not_before_of_before {xs : List α} (hxs : xs.Nodup) {a b : α}
    (hab : ∃ i j : Nat, i < j ∧ xs[i]? = some a ∧ xs[j]? = some b) :
    ¬∃ i j : Nat, i < j ∧ xs[i]? = some b ∧ xs[j]? = some a := by
  rintro ⟨k, l, hkl, hk, hl⟩
  obtain ⟨i, j, hij, hi, hj⟩ := hab
  have hil := (List.getElem?_inj (List.getElem?_eq_some_iff.mp hi).1 hxs).mp (hi.trans hl.symm)
  have hjk := (List.getElem?_inj (List.getElem?_eq_some_iff.mp hj).1 hxs).mp (hj.trans hk.symm)
  omega

/-- There is one way to put things with times in order, newest first, if ties are resolved. -/
theorem eq_of_newest_first {time : α → Timestamp} {earlier : α → α → Prop}
    (hearlier : ∀ {a b}, earlier a b → ¬earlier b a) {xs ys : List α} (hperm : xs.Perm ys)
    (hxs : xs.Pairwise fun a b =>
      (time b).before (time a) = true ∨ time a = time b ∧ earlier a b)
    (hys : ys.Pairwise fun a b =>
      (time b).before (time a) = true ∨ time a = time b ∧ earlier a b) : xs = ys := by
  refine List.Perm.eq_of_pairwise ?_ hxs hys hperm
  have hasymm : ∀ {t u : Timestamp}, t.before u = true → ¬(u.before t = true ∨ u = t) := by
    intro t u htu hut
    rw [← Timestamp.notAfter_iff_before_or_eq, Timestamp.notAfter, htu] at hut
    exact Bool.false_ne_true hut
  -- two that stand before each other would have to be tied, and each earlier than the other
  rintro a b - - (hnewer | ⟨htied, hfirst⟩) (holder | ⟨htied', hsecond⟩)
  · exact absurd (.inl holder) (hasymm hnewer)
  · exact absurd (.inr htied'.symm) (hasymm hnewer)
  · exact absurd (.inr htied.symm) (hasymm holder)
  · exact absurd hsecond (hearlier hfirst)

end

/-! ## Indexed records -/

/-- The first record became known before the second. -/
def KnownBefore (rs : List Record) (a b : Record) : Prop :=
  ∃ i j : Nat, i < j ∧ rs[i]? = some a ∧ rs[j]? = some b

/-- Records became known in the order in which they stand. -/
theorem pairwise_knownBefore (rs : List Record) : rs.Pairwise (KnownBefore rs) :=
  List.pairwise_iff_getElem.mpr fun i j hi hj hij =>
    ⟨i, j, hij, List.getElem?_eq_getElem hi, List.getElem?_eq_getElem hj⟩

/-- The indexed records with the newest first; of two with one time the one that became known first
is the first. -/
structure IsNewestFirst (rs ranked : List Record) : Prop where
  perm : ranked.Perm (rs.filter (·.isIndexed))
  sorted : ranked.Pairwise fun a b =>
    b.updatedAt.before a.updatedAt = true ∨ a.updatedAt = b.updatedAt ∧ KnownBefore rs a b

namespace IsNewestFirst

variable {rs ranked : List Record}

/-- Ranked records are indexed records of the store. -/
theorem mem (h : IsNewestFirst rs ranked) {r : Record} (hr : r ∈ ranked) :
    r ∈ rs ∧ r.isIndexed = true :=
  List.mem_filter.mp (h.perm.mem_iff.mp hr)

/-- No record is ranked twice. -/
theorem nodup_ids (h : IsNewestFirst rs ranked) (hrs : (rs.map Record.id).Nodup) :
    (ranked.map Record.id).Nodup :=
  (h.perm.map Record.id).nodup_iff.mpr (hrs.sublist (List.filter_sublist.map Record.id))

/-- Records with distinct identifiers have one such order. -/
theorem unique {other : List Record} (h : IsNewestFirst rs ranked) (hother : IsNewestFirst rs other)
    (hrs : (rs.map Record.id).Nodup) : ranked = other := by
  have hnodup : rs.Nodup := List.Nodup.of_map _ hrs
  exact eq_of_newest_first (not_before_of_before hnodup) (h.perm.trans hother.perm.symm) h.sorted
    hother.sorted

end IsNewestFirst

/-- The sorted list of the indexed records is such an order. -/
theorem isNewestFirst_mergeSort (rs : List Record) :
    IsNewestFirst rs ((rs.filter (·.isIndexed)).mergeSort SortOrder.newest.le) where
  perm := List.mergeSort_perm _ _
  sorted := by
    have hbefore : (rs.filter (·.isIndexed)).Pairwise (KnownBefore rs) :=
      (pairwise_knownBefore rs).sublist List.filter_sublist
    have htrans : ∀ a b c, SortOrder.newest.le a b = true → SortOrder.newest.le b c = true →
        SortOrder.newest.le a c = true := fun _ _ _ => SortOrder.le_trans
    have htotal : ∀ a b, (SortOrder.newest.le a b || SortOrder.newest.le b a) = true := by
      intro a b
      rw [Bool.or_eq_true]
      exact SortOrder.le_total _ a b
    have hsorted := pairwise_mergeSort_of_pairwise htrans htotal hbefore
    refine hsorted.imp ?_
    rintro a b ⟨hle, hties⟩
    rcases (SortOrder.le_iff _ a b).mp hle with hprecedes | htied
    · exact .inl hprecedes
    · have hback : SortOrder.newest.le b a = true :=
        (SortOrder.le_iff _ b a).mpr (.inr (Eq.symm htied))
      exact .inr ⟨htied, hties hback⟩

namespace ContentEntry

/-- The entry of an indexed record. -/
def ofRecord (r : Record) : ContentEntry := ⟨r.id, r.updatedAt, r.contentText?.getD ""⟩

/-- A record has an entry exactly if it is indexed. -/
theorem ofRecord?_eq (r : Record) :
    ofRecord? r = if r.isIndexed then some (ofRecord r) else none := by
  rw [r.isIndexed_eq, ofRecord?, ofRecord, Record.contentText?]
  cases r.content <;> rfl

/-- The entries of some records are those of the indexed ones. -/
theorem filterMap_ofRecord? (rs : List Record) :
    rs.filterMap ofRecord? = (rs.filter (·.isIndexed)).map ofRecord := by
  induction rs with
  | nil => rfl
  | cons r rs ih =>
    rw [List.filterMap_cons, ofRecord?_eq, List.filter_cons, ih]
    split <;> simp_all

end ContentEntry

/-- A snapshot holds the entries of the newest indexed records, at most `cap` of them. -/
theorem ContentSnapshot.entries_ofRecords {rs ranked : List Record} (h : IsNewestFirst rs ranked)
    (hrs : (rs.map Record.id).Nodup) (cap : Nat) :
    (ofRecords cap rs).entries = (ranked.take cap).map ContentEntry.ofRecord := by
  have hle : ∀ a ∈ rs.filter (·.isIndexed), ∀ b ∈ rs.filter (·.isIndexed),
      SortOrder.newest.le a b =
        ContentEntry.le (ContentEntry.ofRecord a) (ContentEntry.ofRecord b) :=
    fun _ _ _ _ => rfl
  rw [h.unique (isNewestFirst_mergeSort rs) hrs, List.map_take, List.map_mergeSort hle, ofRecords,
    ContentEntry.filterMap_ofRecord?]

/-! ## What is kept -/

/-- The entry has the identifier, the time and the content of the record. -/
structure ContentEntry.IsOf (e : ContentEntry) (r : Record) : Prop where
  id : e.id = r.id
  updatedAt : e.updatedAt = r.updatedAt
  content : r.contentText? = some e.content

/-- The records with content are the indexed ones. -/
theorem Record.isSome_contentText? (r : Record) : r.contentText?.isSome = r.isIndexed := by
  rw [r.isIndexed_eq, contentText?, Option.isSome_map]

/-- The entry of an indexed record tells its identifier, its time and its content. -/
theorem ContentEntry.isOf_ofRecord {r : Record} (h : r.isIndexed = true) : (ofRecord r).IsOf r where
  id := rfl
  updatedAt := rfl
  content := by
    rw [← r.isSome_contentText?] at h
    obtain ⟨text, htext⟩ := Option.isSome_iff_exists.mp h
    rw [ofRecord, htext]
    rfl

namespace IsNewestFirst

variable {rs ranked : List Record}

/-- As many entries are kept as there are indexed records, up to the cap. -/
theorem length_take (h : IsNewestFirst rs ranked) (cap : Nat) :
    (ranked.take cap).length = min cap (rs.countP (·.isIndexed)) := by
  rw [List.length_take, h.perm.length_eq, ← List.countP_eq_length_filter]

/-- What stands behind the first records is no newer than these. -/
theorem notAfter_of_mem_drop (h : IsNewestFirst rs ranked) {cap : Nat} {a b : Record}
    (ha : a ∈ ranked.take cap) (hb : b ∈ ranked.drop cap) :
    b.updatedAt.notAfter a.updatedAt = true := by
  have hsorted := h.sorted
  rw [← List.take_append_drop cap ranked] at hsorted
  rw [Timestamp.notAfter_iff_before_or_eq]
  exact ((List.pairwise_append.mp hsorted).2.2 a ha b hb).imp_right fun htied => htied.1.symm

end IsNewestFirst

/-- The records with content are those that a snapshot keeps, as many as the cap allows, and those
that it leaves out.  There is one entry for each that is kept, with its identifier, time and
content, newest first, and those with one time in the order of the records.  What is left out is no
newer than what is kept, and with a lower cap a snapshot holds the beginning of that. -/
theorem ContentSnapshot.kept_of_records {rs : List Record} (h : (rs.map Record.id).Nodup)
    (cap : Nat) :
    (ofRecords cap rs).entries.length = min cap (rs.countP (·.contentText?.isSome)) ∧
    (∃ kept left : List Record,
      (kept ++ left).Perm (rs.filter (·.contentText?.isSome)) ∧
      List.Forall₂ ContentEntry.IsOf (ofRecords cap rs).entries kept ∧
      (kept.map Record.id).Nodup ∧
      kept.Pairwise (fun a b => b.updatedAt.before a.updatedAt = true ∨
        a.updatedAt = b.updatedAt ∧ KnownBefore rs a b) ∧
      ∀ a ∈ kept, ∀ b ∈ left, b.updatedAt.notAfter a.updatedAt = true) ∧
    ∀ lower, lower ≤ cap → (ofRecords lower rs).entries <+: (ofRecords cap rs).entries := by
  have hranked := isNewestFirst_mergeSort rs
  generalize (rs.filter (·.isIndexed)).mergeSort SortOrder.newest.le = ranked at hranked
  have hentries := entries_ofRecords hranked h
  simp only [Record.isSome_contentText?]
  refine ⟨?_, ⟨ranked.take cap, ranked.drop cap, ?_, ?_, ?_,
    hranked.sorted.sublist (List.take_sublist cap ranked),
    fun a ha b hb => hranked.notAfter_of_mem_drop ha hb⟩, ?_⟩
  · rw [hentries, List.length_map, hranked.length_take]
  · rw [List.take_append_drop]
    exact hranked.perm
  · rw [hentries, List.forall₂_map_left_iff, List.forall₂_same]
    exact fun r hr => ContentEntry.isOf_ofRecord (hranked.mem (List.mem_of_mem_take hr)).2
  · exact (hranked.nodup_ids h).sublist ((List.take_sublist cap ranked).map Record.id)
  · intro lower hlower
    rw [hentries, hentries]
    exact (List.take_prefix_take_left hlower).map ContentEntry.ofRecord

/-- Two of three records with content are kept, the newest and one of two with one time; the newest
of all has no content. -/
theorem ContentSnapshot.kept_of_ties :
    let later : Timestamp := ⟨60, 0, by decide, by decide, by decide, by decide⟩
    let latest : Timestamp := ⟨119, 1500000000, by decide, by decide, by decide, by decide⟩
    let rs : List Record :=
      [(Record.ofListing "a" "One" .epoch).setContent "Text of a",
        (Record.ofListing "b" "Two" .epoch).setContent "Text of b",
        (Record.ofListing "c" "Three" later).setContent "Text of c",
        Record.ofListing "d" "Four" latest]
    (rs.map Record.id).Nodup ∧ (ofRecords 2 rs).entries.length = 2 ∧
      (∃ kept left : List Record, (kept ++ left).Perm (rs.filter (·.contentText?.isSome)) ∧
        List.Forall₂ ContentEntry.IsOf (ofRecords 2 rs).entries kept ∧
        kept.Pairwise (fun a b => b.updatedAt.before a.updatedAt = true ∨
          a.updatedAt = b.updatedAt ∧ KnownBefore rs a b) ∧
        ∀ a ∈ kept, ∀ b ∈ left, b.updatedAt.notAfter a.updatedAt = true) ∧
      (ofRecords 1 rs).entries <+: (ofRecords 2 rs).entries := by
  intro later latest rs
  have hids : (rs.map Record.id).Nodup := by decide
  obtain ⟨hlength, ⟨kept, left, hperm, hentries, -, hsorted, hleft⟩, hprefix⟩ :=
    kept_of_records hids 2
  have hcount : rs.countP (·.contentText?.isSome) = 3 := by decide
  rw [hcount] at hlength
  exact ⟨hids, hlength, ⟨kept, left, hperm, hentries, hsorted, hleft⟩, hprefix 1 (by decide)⟩

end ChatArchive
