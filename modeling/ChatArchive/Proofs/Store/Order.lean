import ChatArchive.Proofs.Calendar.Order
import ChatArchive.Store.Basic
import Mathlib.Data.String.Basic

/-!
# The order of the view

Each sort order is a total preorder on records: `Precedes` says which record stands before another
and `Tied` which stand equal (`SortOrder.le_iff`).  Sorting is stable: what is tied keeps the order
in which it came (`pairwise_mergeSort_of_pairwise`), also where things are left out
(`filter_mergeSort`).
-/

namespace ChatArchive

/-! ## Stable sorting -/

section

variable {α : Type} {le : α → α → Bool}

/-- A stable sort puts things in order, and what is equal in that order stays related as it was
before. -/
theorem pairwise_mergeSort_of_pairwise
    (trans : ∀ a b c, le a b = true → le b c = true → le a c = true)
    (total : ∀ a b, (le a b || le b a) = true) {R : α → α → Prop} {l : List α} (h : l.Pairwise R) :
    (l.mergeSort le).Pairwise fun a b => le a b = true ∧ (le b a = true → R a b) := by
  rw [List.pairwise_iff_forall_sublist]
  intro a b hab
  have hle := (List.pairwise_mergeSort trans total l).forall_sublist hab
  refine ⟨hle, fun hba => ?_⟩
  -- those tied with `a` stand in the sorted list as they stood before
  let tied : α → Bool := fun x => le a x && le x a
  have hsorted : (l.filter tied).Pairwise fun x y => le x y = true := by
    rw [List.pairwise_iff_forall_sublist]
    intro x y hxy
    have hx := List.of_mem_filter (hxy.subset (by simp : x ∈ [x, y]))
    have hy := List.of_mem_filter (hxy.subset (by simp : y ∈ [x, y]))
    simp only [tied, Bool.and_eq_true] at hx hy
    exact trans x a y hx.2 hy.1
  have hsub : (l.filter tied).Sublist (l.mergeSort le) :=
    List.sublist_mergeSort trans total hsorted List.filter_sublist
  have hsub' : (l.filter tied).Sublist ((l.mergeSort le).filter tied) := by
    simpa using hsub.filter tied
  have heq : l.filter tied = (l.mergeSort le).filter tied := by
    refine hsub'.eq_of_length ?_
    exact ((List.mergeSort_perm l le).filter tied).length_eq.symm
  have hself : le a a = true := by simpa using total a a
  have hpair : [a, b].filter tied = [a, b] := by simp [tied, hle, hba, hself]
  have hin : [a, b].Sublist (l.filter tied) := by
    rw [heq, ← hpair]
    exact hab.filter tied
  exact h.forall_sublist (hin.trans List.filter_sublist)

/-- There is one way to put things in order, if `R` resolves the ties. -/
theorem eq_of_stably_sorted {R : α → α → Prop} (hR : ∀ a b, R a b → ¬ R b a) {xs ys : List α}
    (hperm : xs.Perm ys) (hxs : xs.Pairwise fun a b => le a b = true ∧ (le b a = true → R a b))
    (hys : ys.Pairwise fun a b => le a b = true ∧ (le b a = true → R a b)) : xs = ys := by
  refine hperm.eq_of_pairwise ?_ hxs hys
  rintro a b - - ⟨hle, hab⟩ ⟨hge, hba⟩
  exact absurd (hba hle) (hR a b (hab hge))

/-- To leave things out of a sorted list is to leave them out first, if `R` resolves the ties. -/
theorem filter_mergeSort_of_pairwise
    (trans : ∀ a b c, le a b = true → le b c = true → le a c = true)
    (total : ∀ a b, (le a b || le b a) = true) {R : α → α → Prop} (hR : ∀ a b, R a b → ¬ R b a)
    {l : List α} (hl : l.Pairwise R) (p : α → Bool) :
    (l.mergeSort le).filter p = (l.filter p).mergeSort le := by
  have hsorted := pairwise_mergeSort_of_pairwise trans total hl
  have hsorted' := pairwise_mergeSort_of_pairwise trans total (hl.filter p)
  have hperm : ((l.mergeSort le).filter p).Perm ((l.filter p).mergeSort le) :=
    ((List.mergeSort_perm l le).filter p).trans (List.mergeSort_perm _ le).symm
  exact eq_of_stably_sorted hR hperm (hsorted.filter p) hsorted'

/-- To leave things out of a sorted list is to leave them out first. -/
theorem filter_mergeSort
    (trans : ∀ a b c, le a b = true → le b c = true → le a c = true)
    (total : ∀ a b, (le a b || le b a) = true) (p : α → Bool) (l : List α) :
    (l.mergeSort le).filter p = (l.filter p).mergeSort le := by
  -- numbers resolve the ties between things that are equal
  let numbered : List (α × Nat) := l.zipIdx
  let leFst : α × Nat → α × Nat → Bool := fun a b => le a.1 b.1
  have hnumbers : numbered.Pairwise fun a b => a.2 < b.2 := by
    rw [← List.pairwise_map (f := Prod.snd) (R := (· < ·)), List.zipIdx_map_snd]
    exact List.pairwise_lt_range' 1
  have hsort : ∀ xs : List (α × Nat),
      (xs.mergeSort leFst).map Prod.fst = (xs.map Prod.fst).mergeSort le :=
    fun xs => List.map_mergeSort fun _ _ _ _ => rfl
  have hfilter : (numbered.mergeSort leFst).filter (fun a => p a.1) =
      (numbered.filter fun a => p a.1).mergeSort leFst :=
    filter_mergeSort_of_pairwise (fun a b c => trans a.1 b.1 c.1) (fun a b => total a.1 b.1)
      (fun a b => Nat.lt_asymm) hnumbers fun a => p a.1
  have hl : l = numbered.map Prod.fst := (List.zipIdx_map_fst 0 l).symm
  calc (l.mergeSort le).filter p
      = ((numbered.mergeSort leFst).filter fun a => p a.1).map Prod.fst := by
        rw [hl, ← hsort, List.filter_map]
        rfl
    _ = ((numbered.filter fun a => p a.1).mergeSort leFst).map Prod.fst := by rw [hfilter]
    _ = (l.filter p).mergeSort le := by
        rw [hsort, hl, List.filter_map]
        rfl

end

/-! ## Sort orders -/

namespace SortOrder

/-- The first record stands before the second: it is newer, it is older, or its title in lowercase
comes earlier in the alphabet. -/
def Precedes (o : SortOrder) (a b : Record) : Prop :=
  match o with
  | newest => b.updatedAt.before a.updatedAt = true
  | oldest => a.updatedAt.before b.updatedAt = true
  | title => Text.lower a.title.text < Text.lower b.title.text

/-- The order does not tell two records apart. -/
def Tied (o : SortOrder) (a b : Record) : Prop :=
  match o with
  | newest | oldest => a.updatedAt = b.updatedAt
  | title => Text.lower a.title.text = Text.lower b.title.text

/-- A record does not come after another if it precedes it or is tied with it. -/
theorem le_iff (o : SortOrder) (a b : Record) :
    o.le a b = true ↔ o.Precedes a b ∨ o.Tied a b := by
  cases o with
  | newest =>
    simp only [le, Precedes, Tied, Timestamp.notAfter_iff_before_or_eq]
    exact or_congr_right eq_comm
  | oldest => exact Timestamp.notAfter_iff_before_or_eq _ _
  | title =>
    simp only [le, Precedes, Tied, decide_eq_true_eq, a.title.lowered_eq, b.title.lowered_eq]
    exact le_iff_lt_or_eq

/-- Not coming after carries over. -/
theorem le_trans {o : SortOrder} {a b c : Record} (hab : o.le a b = true) (hbc : o.le b c = true) :
    o.le a c = true := by
  cases o with
  | newest => exact Timestamp.notAfter_trans hbc hab
  | oldest => exact Timestamp.notAfter_trans hab hbc
  | title =>
    simp only [le, decide_eq_true_eq] at *
    exact hab.trans hbc

/-- Of two records one does not come after the other. -/
theorem le_total (o : SortOrder) (a b : Record) : o.le a b = true ∨ o.le b a = true := by
  cases o with
  | newest => exact Timestamp.notAfter_total _ _
  | oldest => exact Timestamp.notAfter_total _ _
  | title =>
    simp only [le, decide_eq_true_eq]
    exact Std.le_total

end SortOrder

/-! ## Positions -/

namespace Store

/-- The order of positions, which is that of their records, is transitive too. -/
theorem positionLe_trans (s : Store) (i j k : Nat) (hij : s.positionLe i j = true)
    (hjk : s.positionLe j k = true) : s.positionLe i k = true := by
  unfold positionLe at *
  cases hi : s.records[i]? <;> cases hj : s.records[j]? <;> cases hk : s.records[k]? <;>
    simp_all
  exact SortOrder.le_trans hij hjk

/-- Of two positions one does not come after the other. -/
theorem positionLe_total (s : Store) (i j : Nat) :
    (s.positionLe i j || s.positionLe j i) = true := by
  unfold positionLe
  cases s.records[i]? <;> cases s.records[j]? <;> simp [SortOrder.le_total]

/-- The first position stands before the second in the view: its record precedes the other's, or
is tied with it and became known first. -/
def StandsBefore (s : Store) (i j : Nat) : Prop :=
  ∃ a b, s.records[i]? = some a ∧ s.records[j]? = some b ∧
    (s.order.Precedes a b ∨ s.order.Tied a b ∧ i < j)

/-- A view that was made of positions in the order of the records is sorted, with ties in the
order of the records. -/
theorem sortView_pairwise {s : Store} (hview : s.view.Pairwise (· < ·))
    (hlt : ∀ i ∈ s.view, i < s.records.length) : s.sortView.view.Pairwise s.StandsBefore := by
  have hsorted := pairwise_mergeSort_of_pairwise s.positionLe_trans s.positionLe_total hview
  refine hsorted.imp_of_mem ?_
  intro i j hi hj hij
  have hi' := hlt i (List.mem_mergeSort.mp hi)
  have hj' := hlt j (List.mem_mergeSort.mp hj)
  refine ⟨s.records[i], s.records[j], List.getElem?_eq_getElem hi', List.getElem?_eq_getElem hj',
    ?_⟩
  simp only [positionLe, List.getElem?_eq_getElem hi', List.getElem?_eq_getElem hj'] at hij
  rcases (SortOrder.le_iff _ _ _).mp hij.1 with hprecedes | htied
  · exact .inl hprecedes
  · refine .inr ⟨htied, hij.2 ((SortOrder.le_iff _ _ _).mpr (.inr ?_))⟩
    cases ho : s.order <;> simp only [ho, SortOrder.Tied] at htied ⊢ <;> exact htied.symm

end Store

end ChatArchive
