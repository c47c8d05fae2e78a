import ChatArchive.Unicode.CharSet
import Mathlib.Tactic.SplitIfs

/-!
# Sets of characters as sets

Ranges in increasing order hold the code points that lie in one of them (`containsIn_iff`).  Joining
sorted ranges and taking the gaps between ranges keep that order, and so the operations on sets of
characters are those on sets: `contains_union`, `contains_complement` and what is built of them.
-/

namespace ChatArchive.Unicode

namespace CharSet

/-! ## Ranges -/

/-- The code point lies in one of the ranges. -/
def Holds (rs : List (Nat × Nat)) (n : Nat) : Prop := ∃ r ∈ rs, r.1 ≤ n ∧ n ≤ r.2

/-- It can be decided, range by range. -/
instance (rs : List (Nat × Nat)) (n : Nat) : Decidable (Holds rs n) :=
  inferInstanceAs (Decidable (∃ r ∈ rs, _))

/-- No range holds anything. -/
@[simp] theorem not_holds_nil (n : Nat) : ¬ Holds [] n := by
  rintro ⟨r, hr, -⟩
  exact absurd hr List.not_mem_nil

/-- A number is held by the first range or by the rest. -/
@[simp] theorem holds_cons (lo hi : Nat) (rs : List (Nat × Nat)) (n : Nat) :
    Holds ((lo, hi) :: rs) n ↔ (lo ≤ n ∧ n ≤ hi) ∨ Holds rs n := by
  simp [Holds]

/-- Ranges in a row hold what the one or the other hold. -/
@[simp] theorem holds_append (rs ts : List (Nat × Nat)) (n : Nat) :
    Holds (rs ++ ts) n ↔ Holds rs n ∨ Holds ts n := by
  simp [Holds, or_and_right, exists_or]

/-- So do those of many. -/
@[simp] theorem holds_flatMap {α : Type} (xs : List α) (f : α → List (Nat × Nat)) (n : Nat) :
    Holds (xs.flatMap f) n ↔ ∃ x ∈ xs, Holds (f x) n := by
  simp only [Holds, List.mem_flatMap]
  constructor
  · rintro ⟨r, ⟨x, hx, hr⟩, hn⟩
    exact ⟨x, hx, r, hr, hn⟩
  · rintro ⟨x, hx, r, hr, hn⟩
    exact ⟨r, ⟨x, hx, hr⟩, hn⟩

/-- The ranges are in increasing order, do not overlap and begin at `next` or later. -/
def Increasing (next : Nat) : List (Nat × Nat) → Prop
  | [] => True
  | (lo, hi) :: rest => next ≤ lo ∧ lo ≤ hi ∧ Increasing (hi + 1) rest

/-- What starts later also starts earlier. -/
theorem Increasing.weaken {next before : Nat} (hle : before ≤ next) {rs : List (Nat × Nat)}
    (hrs : Increasing next rs) : Increasing before rs := by
  cases rs with
  | nil => trivial
  | cons r rest => exact ⟨Nat.le_trans hle hrs.1, hrs.2⟩

/-- Nothing is held in front of the start. -/
theorem Increasing.le_of_holds {next n : Nat} {rs : List (Nat × Nat)} (hrs : Increasing next rs)
    (hn : Holds rs n) : next ≤ n := by
  induction rs generalizing next with
  | nil => exact absurd hn (not_holds_nil n)
  | cons r rest ih =>
    obtain ⟨lo, hi⟩ := r
    obtain ⟨hnext, hle, hrest⟩ := hrs
    rcases (holds_cons lo hi rest n).mp hn with ⟨hlo, -⟩ | hn
    · exact Nat.le_trans hnext hlo
    · have := ih hrest hn
      omega

/-- A search that stops early finds what there is. -/
theorem containsIn_iff {next n : Nat} {rs : List (Nat × Nat)} (hrs : Increasing next rs) :
    containsIn rs n = true ↔ Holds rs n := by
  induction rs generalizing next with
  | nil => simp [containsIn]
  | cons r rest ih =>
    obtain ⟨lo, hi⟩ := r
    obtain ⟨-, hle, hrest⟩ := hrs
    have hlater : Holds rest n → hi + 1 ≤ n := hrest.le_of_holds
    rw [containsIn, holds_cons, ← ih hrest]
    rw [← ih hrest] at hlater
    split_ifs with hlt
    · constructor
      · intro h
        cases h
      · rintro (⟨hlo, -⟩ | hn)
        · omega
        · have := hlater hn
          omega
    · simp only [Bool.or_eq_true, decide_eq_true_eq]
      constructor
      · rintro (hhi | hn)
        · exact .inl ⟨by omega, hhi⟩
        · exact .inr hn
      · rintro (⟨-, hhi⟩ | hn)
        · exact .inl hhi
        · exact .inr hn

/-! ## Joining -/

/-- The ranges are sorted by their lower ends, none is empty, and all begin at `lo` or later. -/
def SortedFrom (lo : Nat) (rs : List (Nat × Nat)) : Prop :=
  (∀ r ∈ rs, lo ≤ r.1 ∧ r.1 ≤ r.2) ∧ rs.Pairwise fun r t => r.1 ≤ t.1

/-- The ranges behind the first start no earlier than it. -/
theorem SortedFrom.rest {lo a b : Nat} {rest : List (Nat × Nat)}
    (h : SortedFrom lo ((a, b) :: rest)) : lo ≤ a ∧ a ≤ b ∧ SortedFrom a rest := by
  obtain ⟨hall, hpair⟩ := h
  obtain ⟨hfirst, hpair⟩ := List.pairwise_cons.mp hpair
  obtain ⟨hlo, hle⟩ := hall (a, b) List.mem_cons_self
  exact ⟨hlo, hle, fun r hr => ⟨hfirst r hr, (hall r (List.mem_cons_of_mem _ hr)).2⟩, hpair⟩

/-- Joining sorted ranges makes them disjoint and keeps what they hold. -/
theorem joinSorted_go {lo hi : Nat} {rs : List (Nat × Nat)} (hle : lo ≤ hi)
    (hrs : SortedFrom lo rs) :
    Increasing lo (joinSorted.go lo hi rs) ∧
      ∀ n, Holds (joinSorted.go lo hi rs) n ↔ (lo ≤ n ∧ n ≤ hi) ∨ Holds rs n := by
  induction rs generalizing lo hi with
  | nil => exact ⟨⟨Nat.le_refl lo, hle, trivial⟩, fun n => by simp [joinSorted.go]⟩
  | cons r rest ih =>
    obtain ⟨a, b⟩ := r
    obtain ⟨hlo, hab, hrest⟩ := hrs.rest
    rw [joinSorted.go]
    split_ifs with htouch
    · have hgrown : SortedFrom lo rest :=
        ⟨fun r hr => ⟨Nat.le_trans hlo (hrest.1 r hr).1, (hrest.1 r hr).2⟩, hrest.2⟩
      have hmax : lo ≤ max hi b := by omega
      obtain ⟨hincreasing, hholds⟩ := ih hmax hgrown
      refine ⟨hincreasing, fun n => ?_⟩
      rw [hholds, holds_cons, ← or_assoc]
      refine or_congr ?_ Iff.rfl
      omega
    · obtain ⟨hincreasing, hholds⟩ := ih hab hrest
      refine ⟨⟨Nat.le_refl lo, hle, hincreasing.weaken (by omega)⟩, fun n => ?_⟩
      rw [holds_cons, holds_cons, hholds]

/-- So does the set of any ranges, for they are sorted first. -/
theorem increasing_ofRanges (rs : List (Nat × Nat)) : Increasing 0 (ofRanges rs).ranges ∧
    ∀ n, Holds (ofRanges rs).ranges n ↔ Holds rs n := by
  have hmem : ∀ r, r ∈ (rs.filter fun r => r.1 ≤ r.2).mergeSort (fun a b => a.1 ≤ b.1) ↔
      r ∈ rs ∧ r.1 ≤ r.2 := by
    intro r
    rw [List.mem_mergeSort, List.mem_filter, decide_eq_true_iff]
  have hholds : ∀ n, Holds ((rs.filter fun r => r.1 ≤ r.2).mergeSort fun a b => a.1 ≤ b.1) n ↔
      Holds rs n := by
    intro n
    simp only [Holds, hmem]
    constructor
    · rintro ⟨r, ⟨hr, -⟩, hn⟩
      exact ⟨r, hr, hn⟩
    · rintro ⟨r, hr, hn⟩
      exact ⟨r, ⟨hr, Nat.le_trans hn.1 hn.2⟩, hn⟩
  have hsorted : SortedFrom 0 ((rs.filter fun r => r.1 ≤ r.2).mergeSort fun a b => a.1 ≤ b.1) := by
    refine ⟨fun r hr => ⟨Nat.zero_le _, ((hmem r).mp hr).2⟩, ?_⟩
    have htrans : ∀ a b c : Nat × Nat, decide (a.1 ≤ b.1) = true → decide (b.1 ≤ c.1) = true →
        decide (a.1 ≤ c.1) = true := by
      simp only [decide_eq_true_eq]
      omega
    have htotal : ∀ a b : Nat × Nat, (decide (a.1 ≤ b.1) || decide (b.1 ≤ a.1)) = true := by
      simp only [Bool.or_eq_true, decide_eq_true_eq]
      omega
    exact (List.pairwise_mergeSort htrans htotal _).imp fun h => of_decide_eq_true h
  rw [ofRanges]
  cases h : (rs.filter fun r => r.1 ≤ r.2).mergeSort fun a b => a.1 ≤ b.1 with
  | nil =>
    rw [h] at hholds
    exact ⟨trivial, hholds⟩
  | cons r rest =>
    obtain ⟨lo, hi⟩ := r
    rw [h] at hholds hsorted
    obtain ⟨-, hle, hrest⟩ := hsorted.rest
    obtain ⟨hincreasing, hjoined⟩ := joinSorted_go hle hrest
    refine ⟨hincreasing.weaken (Nat.zero_le lo), fun n => ?_⟩
    rw [← hholds, holds_cons]
    exact hjoined n

/-! ## Gaps -/

/-- The gaps are in order, and hold what the ranges do not. -/
theorem gaps_increasing {next : Nat} {rs : List (Nat × Nat)} (hrs : Increasing next rs) :
    Increasing next (gaps next rs) ∧
      ∀ n ≤ maxCodePoint, Holds (gaps next rs) n ↔ next ≤ n ∧ ¬ Holds rs n := by
  induction rs generalizing next with
  | nil =>
    rw [gaps]
    split_ifs with hle
    · refine ⟨⟨Nat.le_refl next, hle, trivial⟩, fun n hn => ?_⟩
      simp [hn]
    · refine ⟨trivial, fun n hn => ?_⟩
      simp only [not_holds_nil, not_false_eq_true, and_true, false_iff]
      omega
  | cons r rest ih =>
    obtain ⟨lo, hi⟩ := r
    obtain ⟨hnext, hle, hrest⟩ := hrs
    obtain ⟨hincreasing, hholds⟩ := ih hrest
    rw [gaps]
    split_ifs with hlt
    · refine ⟨⟨Nat.le_refl next, by omega, hincreasing.weaken (by omega)⟩, fun n hn => ?_⟩
      have hlater : Holds rest n → hi + 1 ≤ n := hrest.le_of_holds
      rw [holds_cons, holds_cons, hholds n hn, not_or]
      by_cases hrestn : Holds rest n
      · have := hlater hrestn
        simp only [hrestn, not_true_eq_false, and_false, or_false, iff_false]
        omega
      · simp only [hrestn, not_false_eq_true, and_true]
        omega
    · refine ⟨hincreasing.weaken (by omega), fun n hn => ?_⟩
      have hsame : next ≤ n ∧ ¬ (lo ≤ n ∧ n ≤ hi) ↔ hi + 1 ≤ n := by omega
      rw [holds_cons, hholds n hn, not_or, ← and_assoc, hsame]

/-! ## Sets -/

/-- The ranges of the set are in increasing order and do not overlap. -/
def Ordered (s : CharSet) : Prop := Increasing 0 s.ranges

/-- The search by halves finds what the ranges hold. -/
theorem contains_iff {s : CharSet} (hs : s.Ordered) (c : Char) :
    s.contains c = true ↔ Holds s.ranges c.toNat := containsIn_iff hs

/-- Every character is below the greatest code point. -/
theorem toNat_le_maxCodePoint (c : Char) : c.toNat ≤ maxCodePoint := by
  have hvalid : c.toNat < 0xD800 ∨ (0xDFFF < c.toNat ∧ c.toNat < 0x110000) := c.valid
  unfold maxCodePoint
  omega

/-- The set of any ranges is ordered. -/
theorem ordered_ofRanges (rs : List (Nat × Nat)) : (ofRanges rs).Ordered :=
  (increasing_ofRanges rs).1

/-- It contains what they hold. -/
theorem contains_ofRanges (rs : List (Nat × Nat)) (c : Char) :
    (ofRanges rs).contains c = true ↔ Holds rs c.toNat := by
  rw [contains_iff (ordered_ofRanges rs), (increasing_ofRanges rs).2]

/-- The union of two sets is ordered. -/
theorem ordered_union (s t : CharSet) : (s.union t).Ordered := ordered_ofRanges _

/-- So is that of many. -/
theorem ordered_unions (ss : List CharSet) : (unions ss).Ordered := ordered_ofRanges _

/-- So is a set that is read from a table. -/
theorem ordered_ofText (lines : List String) : (ofText lines).Ordered := ordered_ofRanges _

/-- The complement of an ordered set is ordered. -/
theorem ordered_complement {s : CharSet} (hs : s.Ordered) : s.complement.Ordered :=
  (gaps_increasing hs).1

/-- A union contains what one of the two sets contains. -/
theorem contains_union {s t : CharSet} (hs : s.Ordered) (ht : t.Ordered) (c : Char) :
    (s.union t).contains c = (s.contains c || t.contains c) := by
  rw [Bool.eq_iff_iff, union, contains_ofRanges, holds_append, Bool.or_eq_true, contains_iff hs,
    contains_iff ht]

/-- That of many contains what one of them contains. -/
theorem contains_unions {ss : List CharSet} (hss : ∀ s ∈ ss, s.Ordered) (c : Char) :
    (unions ss).contains c = ss.any (·.contains c) := by
  rw [Bool.eq_iff_iff, unions, contains_ofRanges, holds_flatMap, List.any_eq_true]
  refine exists_congr fun s => and_congr_right fun hs => ?_
  rw [contains_iff (hss s hs)]

/-- The complement contains what the set does not. -/
theorem contains_complement {s : CharSet} (hs : s.Ordered) (c : Char) :
    s.complement.contains c = !s.contains c := by
  have hgaps := (gaps_increasing hs).2 c.toNat (toNat_le_maxCodePoint c)
  rw [Bool.eq_iff_iff, contains_iff (ordered_complement hs), Bool.not_eq_true', ← Bool.not_eq_true,
    contains_iff hs, complement, hgaps]
  exact and_iff_right (Nat.zero_le _)

/-- The intersection contains what both contain. -/
theorem contains_inter {s t : CharSet} (hs : s.Ordered) (ht : t.Ordered) (c : Char) :
    (s.inter t).contains c = (s.contains c && t.contains c) := by
  rw [inter, contains_complement (ordered_union _ _),
    contains_union (ordered_complement hs) (ordered_complement ht), contains_complement hs,
    contains_complement ht, Bool.not_or, Bool.not_not, Bool.not_not]

/-- The difference contains what only the first one contains. -/
theorem contains_difference {s t : CharSet} (hs : s.Ordered) (ht : t.Ordered) (c : Char) :
    (s.difference t).contains c = (s.contains c && !t.contains c) := by
  rw [difference, contains_inter hs (ordered_complement ht), contains_complement ht]

/-- A set that is read from a table holds what one of its lines names. -/
theorem contains_ofText (lines : List String) (c : Char) : (ofText lines).contains c = true ↔
    ∃ line ∈ lines, Holds (rangesOfText line.toList) c.toNat := by
  rw [ofText, contains_ofRanges, holds_flatMap]

end CharSet

end ChatArchive.Unicode
