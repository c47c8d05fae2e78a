import ChatArchive.Proofs.Store.Restore
import ChatArchive.Proofs.Store.View
import Mathlib.Data.List.Forall2
import Mathlib.Data.List.Sort
import Mathlib.Order.Antisymmetrization

/-!
# Sorting a view again

A change of the sort order sorts the view as it stands, and a refresh sorts the positions in the
order of the records.  Both are stable, so they may differ where the order does not tell records
apart: `view_setOrder_eq_refresh_iff` says that they agree exactly if such records stand in the view
as they became known.  In any case the two views differ in ties only (`forall₂_of_perm`).

This holds of the stores of which no record changed since their view was made anew (`Settled`).
Their records are marked, and the view has the positions of the visible ones.
-/

namespace ChatArchive

/-! ## Stable sorts of the same things -/

section

variable {α : Type} {le : α → α → Bool} {l l' : List α}
  (trans : ∀ a b c, le a b = true → le b c = true → le a c = true)
  (total : ∀ a b, (le a b || le b a) = true)
include trans total

/-- The sorted list agrees with that of the things in their own order exactly if what is tied stands
in that order. -/
theorem mergeSort_eq_mergeSort_iff {R : α → α → Prop} (hR : ∀ a b, R a b → ¬ R b a)
    (hperm : l.Perm l') (hl' : l'.Pairwise R) :
    l.mergeSort le = l'.mergeSort le ↔
      l.Pairwise fun a b => le a b = true → le b a = true → R a b := by
  have hsorted' := pairwise_mergeSort_of_pairwise trans total hl'
  constructor
  · intro heq
    rw [List.pairwise_iff_forall_sublist]
    intro a b hab hle hge
    have hkept := List.pair_sublist_mergeSort trans total hle hab
    rw [heq] at hkept
    exact (hsorted'.forall_sublist hkept).2 hge
  · intro hties
    -- both are sorted with ties in the order of `R`, and only one list is
    have hsorted := pairwise_mergeSort_of_pairwise trans total hties
    have hsame : (l.mergeSort le).Perm (l'.mergeSort le) :=
      ((List.mergeSort_perm l le).trans hperm).trans (List.mergeSort_perm l' le).symm
    refine eq_of_stably_sorted hR hsame (hsorted.imp ?_) hsorted'
    rintro a b ⟨hle, hab⟩
    exact ⟨hle, fun hge => hab hge hle hge⟩

/-- Sorted lists of the same things differ in ties only. -/
theorem forall₂_of_perm (hperm : l.Perm l') (hl : l.Pairwise fun a b => le a b = true)
    (hl' : l'.Pairwise fun a b => le a b = true) :
    List.Forall₂ (fun a b => le a b = true ∧ le b a = true) l l' := by
  have hrefl : ∀ a, le a a = true := fun a => by simpa using total a a
  let order : Preorder α := { le := fun a b => le a b = true, le_refl := hrefl, le_trans := trans }
  -- what is tied is one class, and the classes have one order
  let classOf : α → Antisymmetrization α (· ≤ ·) := toAntisymmetrization (· ≤ ·)
  have hclasses : l.map classOf = l'.map classOf := by
    refine (hperm.map classOf).eq_of_pairwise (fun a b _ _ => le_antisymm) ?_ ?_
    · exact List.pairwise_map.mpr hl
    · exact List.pairwise_map.mpr hl'
  have hsame : List.Forall₂ Eq (l.map classOf) (l'.map classOf) := by
    rw [hclasses]
    exact List.forall₂_refl _
  rw [List.forall₂_map_left_iff, List.forall₂_map_right_iff] at hsame
  exact hsame.imp fun a b hab => Quotient.exact hab

end

/-! ## Ties -/

/-- Two records are tied if neither comes after the other. -/
theorem SortOrder.tied_iff (o : SortOrder) (a b : Record) :
    o.Tied a b ↔ o.le a b = true ∧ o.le b a = true := by
  cases o with
  | newest => exact (Timestamp.eq_iff_notAfter _ _).trans and_comm
  | oldest => exact Timestamp.eq_iff_notAfter _ _
  | title =>
    simp only [Tied, le, a.title.lowered_eq, b.title.lowered_eq, decide_eq_true_eq]
    exact le_antisymm_iff

namespace Store

/-- An order does not tell the records at two positions apart. -/
def AreTied (s : Store) (o : SortOrder) (i j : Nat) : Prop :=
  ∃ a b, s.records[i]? = some a ∧ s.records[j]? = some b ∧ o.Tied a b

/-- Positions with records are tied if each may stand before the other. -/
theorem areTied_iff {s : Store} {i j : Nat} (hi : i < s.records.length)
    (hj : j < s.records.length) :
    s.AreTied s.order i j ↔ s.positionLe i j = true ∧ s.positionLe j i = true := by
  unfold AreTied positionLe
  rw [List.getElem?_eq_getElem hi, List.getElem?_eq_getElem hj]
  simp [SortOrder.tied_iff]

/-! ## Settled stores -/

/-- A change that does not search again keeps the criteria. -/
theorem Change.criteriaAfter_of_not_rebuilds {c : Change} (hc : c.rebuilds = false) (s : Store) :
    c.criteriaAfter s = s.criteria := by
  cases c with
  | applyFilter _ | clearFilter => cases hc
  | refresh | mergeListing _ _ | mergeContent _ | removeIds _ | setOrder _ | setSelected _ _
  | toggleSelected _ | selectVisible | clearSelection | edit _ _ => rfl

/-- The stores of which no record changed since their view was made anew. -/
inductive Settled : Store → Prop where
  | empty : Settled Store.empty
  | ofRecords (rs : List Record) : Settled (Store.ofRecords rs)
  | rebuild {s : Store} (c : Change) (h : s.Reachable) (hc : c.rebuilds = true) :
      Settled (c.apply s)
  | keep {s : Store} (c : Change) (h : s.Settled) (hc : c.rebuilds = false)
      (hsame : (c.apply s).records = s.records) : Settled (c.apply s)

/-- The records are marked, and the view has the positions of the visible ones. -/
structure IsCurrent (s : Store) : Prop where
  marked : s.records.map s.criteria.mark = s.records
  view : s.view.Perm (s.criteria.visiblePositions s.records)

/-- Marks are not looked at. -/
theorem visiblePositions_map_mark (c d : Criteria) (rs : List Record) :
    c.visiblePositions (rs.map d.mark) = c.visiblePositions rs := by
  unfold Criteria.visiblePositions
  rw [List.zipIdx_map, List.filter_map, List.map_map]
  rfl

/-- A change of the order sorts the view as it stands. -/
theorem view_setOrder (s : Store) (o : SortOrder) :
    (s.setOrder o).view = s.view.mergeSort (s.setOrder o).positionLe := rfl

/-- After a refresh the view has the positions of the visible records, in order. -/
theorem view_refresh (s : Store) :
    s.refresh.view = (s.criteria.visiblePositions s.refresh.records).mergeSort
      s.refresh.positionLe := by
  have hvisible : s.criteria.visiblePositions s.refresh.records =
      s.criteria.visiblePositions s.records := visiblePositions_map_mark _ _ _
  rw [hvisible]
  rfl

/-- What was just searched is up to date. -/
theorem isCurrent_refresh (s : Store) : s.refresh.IsCurrent where
  marked := List.map_map.trans rfl
  view := by
    rw [view_refresh]
    exact List.mergeSort_perm _ _

/-- A settled store is up to date. -/
theorem Settled.isCurrent {s : Store} (h : s.Settled) : s.IsCurrent := by
  induction h with
  | empty => exact ⟨rfl, .refl _⟩
  | ofRecords rs => exact isCurrent_refresh _
  | @rebuild s c h hc =>
    obtain ⟨t, happly, -, -⟩ := Change.exists_refresh hc s
    rw [happly]
    exact isCurrent_refresh t
  | @keep s c h hc hsame ih =>
    obtain ⟨-, -, hview, hcriteria⟩ := Change.keeps_of_not_rebuilds hc s
    have hcriteria' : (c.apply s).criteria = s.criteria :=
      hcriteria.trans (Change.criteriaAfter_of_not_rebuilds hc s)
    constructor
    · rw [hcriteria', hsame]
      exact ih.marked
    · rw [hcriteria', hsame]
      exact hview.trans ih.view

namespace IsCurrent

variable {s : Store}

/-- The view shows records that there are. -/
theorem lt_length (h : s.IsCurrent) {i : Nat} (hi : i ∈ s.view) : i < s.records.length := by
  obtain ⟨r, hr, -⟩ := Criteria.mem_visiblePositions.mp (h.view.mem_iff.mp hi)
  exact (List.getElem?_eq_some_iff.mp hr).1

/-- Sorting keeps a store up to date. -/
theorem setOrder (h : s.IsCurrent) (o : SortOrder) : (s.setOrder o).IsCurrent where
  marked := h.marked
  view := (List.mergeSort_perm _ _).trans h.view

/-- Searching again changes no record of a store that is up to date. -/
theorem records_refresh (h : s.IsCurrent) : s.refresh.records = s.records := h.marked

/-- A refresh sorts the positions of the visible records. -/
theorem view_refresh_eq (h : s.IsCurrent) :
    s.refresh.view = (s.criteria.visiblePositions s.records).mergeSort s.positionLe := by
  have hle : s.refresh.positionLe = s.positionLe := by
    unfold positionLe
    rw [h.records_refresh]
    rfl
  rw [view_refresh, h.records_refresh, hle]

/-- Shown records are tied in an order if each may stand before the other in it. -/
theorem areTied_iff (h : s.IsCurrent) (o : SortOrder) {i j : Nat} (hi : i ∈ s.view)
    (hj : j ∈ s.view) : s.AreTied o i j ↔
      (s.setOrder o).positionLe i j = true ∧ (s.setOrder o).positionLe j i = true :=
  Store.areTied_iff (s := s.setOrder o) (h.lt_length hi) (h.lt_length hj)

/-- A change of the order shows the records that a refresh after it shows. -/
theorem perm_setOrder_refresh (h : s.IsCurrent) (o : SortOrder) :
    (s.setOrder o).view.Perm (s.setOrder o).refresh.view := by
  rw [(h.setOrder o).view_refresh_eq]
  exact (h.setOrder o).view.trans (List.mergeSort_perm _ _).symm

/-- What is tied in the new order keeps the order in which it stood. -/
theorem pairwise_setOrder (h : s.IsCurrent) (o : SortOrder) :
    (s.setOrder o).view.Pairwise fun i j => s.AreTied o i j → [i, j].Sublist s.view := by
  have hstood : s.view.Pairwise fun i j => [i, j].Sublist s.view := by
    rw [List.pairwise_iff_forall_sublist]
    exact fun hij => hij
  have hsorted := pairwise_mergeSort_of_pairwise (s.setOrder o).positionLe_trans
    (s.setOrder o).positionLe_total hstood
  rw [view_setOrder]
  refine hsorted.imp_of_mem ?_
  intro i j hi hj hij htied
  have hback := (h.areTied_iff o (List.mem_mergeSort.mp hi) (List.mem_mergeSort.mp hj)).mp htied
  exact hij.2 hback.2

/-- A change of the order agrees with a refresh exactly if what is tied in the new order stands in
the view as it became known. -/
theorem view_setOrder_eq_refresh_iff (h : s.IsCurrent) (o : SortOrder) :
    (s.setOrder o).view = (s.setOrder o).refresh.view ↔
      s.view.Pairwise fun i j => s.AreTied o i j → i < j := by
  have hshown : s.view.Perm ((s.setOrder o).criteria.visiblePositions (s.setOrder o).records) :=
    h.view
  rw [(h.setOrder o).view_refresh_eq, view_setOrder,
    mergeSort_eq_mergeSort_iff (s.setOrder o).positionLe_trans (s.setOrder o).positionLe_total
      (fun _ _ => Nat.lt_asymm) hshown (Criteria.visiblePositions_pairwise _ _)]
  refine List.Pairwise.iff_of_mem fun {i j} hi hj => ?_
  rw [h.areTied_iff o hi hj, and_imp]

/-- At each place of the view a refresh leaves a record that the order does not tell from the one
that was there. -/
theorem forall₂_areTied (h : s.IsCurrent) (o : SortOrder) :
    List.Forall₂ (s.AreTied o) (s.setOrder o).view (s.setOrder o).refresh.view := by
  have hsorted := List.pairwise_mergeSort (s.setOrder o).positionLe_trans
    (s.setOrder o).positionLe_total
  have hrefreshed := hsorted ((s.setOrder o).criteria.visiblePositions (s.setOrder o).records)
  rw [← (h.setOrder o).view_refresh_eq] at hrefreshed
  have htied := forall₂_of_perm (s.setOrder o).positionLe_trans (s.setOrder o).positionLe_total
    (h.perm_setOrder_refresh o) (hsorted s.view) hrefreshed
  rw [List.forall₂_iff_zip] at htied ⊢
  refine ⟨htied.1, fun {i j} hij => ?_⟩
  obtain ⟨hi, hj⟩ := List.of_mem_zip hij
  have hi' : i ∈ s.view := List.mem_mergeSort.mp hi
  have hj' : j ∈ s.view := List.mem_mergeSort.mp ((h.perm_setOrder_refresh o).mem_iff.mpr hj)
  exact (h.areTied_iff o hi' hj').mpr (htied.2 hij)

end IsCurrent

/-! ## Changes of the order -/

/-- In a store of which no record changed since its view was made anew, a change of the sort order
shows what a refresh after it shows, with records that are tied in each place.  It keeps tied
records as they stood, so that it agrees with the refresh exactly if they stood as they became
known.  The refresh changes no record, it shows the same for any history, and another one moves
nothing. -/
theorem view_of_setOrder {s : Store} (h : s.Settled) (o : SortOrder) :
    ((s.setOrder o).view = (s.setOrder o).refresh.view ↔
      s.view.Pairwise fun i j => s.AreTied o i j → i < j) ∧
    (s.setOrder o).view.Perm (s.setOrder o).refresh.view ∧
    List.Forall₂ (s.AreTied o) (s.setOrder o).view (s.setOrder o).refresh.view ∧
    ((s.setOrder o).view.Pairwise fun i j => s.AreTied o i j → [i, j].Sublist s.view) ∧
    (s.setOrder o).refresh.records = s.records ∧
    (∀ t : Store, t.Settled → t.records = s.records → t.criteria = s.criteria →
      (t.setOrder o).refresh.view = (s.setOrder o).refresh.view) ∧
    (s.setOrder o).refresh.refresh.view = (s.setOrder o).refresh.view := by
  have hs := h.isCurrent
  have hrefreshed := (hs.setOrder o).view_refresh_eq
  refine ⟨hs.view_setOrder_eq_refresh_iff o, hs.perm_setOrder_refresh o, hs.forall₂_areTied o,
    hs.pairwise_setOrder o, hs.records_refresh, ?_, ?_⟩
  · intro t ht hrecords hcriteria
    rw [hrefreshed, (ht.isCurrent.setOrder o).view_refresh_eq]
    unfold positionLe setOrder sortView
    simp only [hrecords, hcriteria]
  · exact (isCurrent_refresh _).view_refresh_eq.trans (view_refresh (s.setOrder o)).symm

/-- Two records with one title, of which the newer one became known last. -/
def sameTitles : List Record :=
  [Record.ofListing "1" "Alpha" Timestamp.epoch,
    Record.ofListing "2" "Alpha" (Timestamp.startOf ⟨1, by decide, by decide⟩)]

/-- Their store has just these. -/
theorem records_sameTitles : (ofRecords sameTitles).records = sameTitles :=
  records_ofRecords (by decide) (by simp [sameTitles, Record.ofListing])

/-- The newer one is shown first. -/
theorem view_sameTitles : (ofRecords sameTitles).view = [1, 0] := by
  have hview : (ofRecords sameTitles).view =
      ((ofRecords sameTitles).criteria.visiblePositions (ofRecords sameTitles).records).mergeSort
        (ofRecords sameTitles).positionLe := view_refresh _
  have hvisible : Criteria.empty.visiblePositions sameTitles = [0, 1] := by decide +kernel
  have hle : (ofRecords sameTitles).positionLe 0 1 = false := by
    unfold positionLe
    rw [records_sameTitles, order_ofRecords]
    decide +kernel
  rw [hview, criteria_ofRecords, records_sameTitles, hvisible]
  simp [List.mergeSort, hle]

/-- They do not stand in the view as they became known. -/
theorem not_pairwise_sameTitles :
    ¬ (ofRecords sameTitles).view.Pairwise fun i j =>
      (ofRecords sameTitles).AreTied .title i j → i < j := by
  intro hpairwise
  rw [view_sameTitles] at hpairwise
  have htied : (ofRecords sameTitles).AreTied .title 1 0 := by
    unfold AreTied
    rw [records_sameTitles]
    exact ⟨_, _, rfl, rfl, rfl⟩
  have hlt : 1 < 0 := (List.pairwise_cons.mp hpairwise).1 0 (List.mem_singleton_self 0) htied
  omega

/-- The two records trade places in a refresh. -/
theorem view_of_setOrder_title :
    let s := ofRecords sameTitles
    s.Settled ∧ (s.setOrder .title).view ≠ (s.setOrder .title).refresh.view ∧
      (s.setOrder .title).view.Perm (s.setOrder .title).refresh.view ∧
      List.Forall₂ (s.AreTied .title) (s.setOrder .title).view
        (s.setOrder .title).refresh.view := by
  intro s
  have hs : s.Settled := .ofRecords _
  obtain ⟨hiff, hperm, htied, -⟩ := view_of_setOrder hs .title
  exact ⟨hs, fun heq => not_pairwise_sameTitles (hiff.mp heq), hperm, htied⟩

/-- A change of the order does not always agree with a refresh. -/
theorem refresh_moves_ties :
    ¬ ∀ s : Store, s.Settled → ∀ o : SortOrder,
      (s.setOrder o).view = (s.setOrder o).refresh.view := by
  intro hagrees
  have hs : (ofRecords sameTitles).Settled := .ofRecords _
  exact not_pairwise_sameTitles
    ((hs.isCurrent.view_setOrder_eq_refresh_iff .title).mp (hagrees _ hs .title))

end Store

end ChatArchive
