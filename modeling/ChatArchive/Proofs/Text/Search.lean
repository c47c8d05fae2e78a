import ChatArchive.Text.Basic
import Mathlib.Data.Nat.Find

/-!
# What searching finds

`find?` gives the first occurrence of a needle (`find?_eq_some_iff`), so that `occursIn` is the
infix relation of lists (`occursIn_iff`) and `replaceFirst` leaves alone what stands on either side
(`replaceFirst_append`).
-/

namespace ChatArchive.Text

variable {needle text : List Char}

/-- The needle stands at a position and at none before it. -/
structure IsFirst (needle text : List Char) (i : Nat) : Prop where
  le_length : i ≤ text.length
  here : needle <+: text.drop i
  not_before : ∀ j < i, ¬ needle <+: text.drop j

/-- A text that starts with the needle has it there first. -/
theorem IsFirst.zero (h : needle <+: text) : IsFirst needle text 0 :=
  ⟨Nat.zero_le _, by simpa using h, fun j hj => absurd hj (Nat.not_lt_zero j)⟩

/-- An occurrence behind the first character is one in the rest of the text. -/
theorem isFirst_succ_iff {c : Char} {cs : List Char} {i : Nat} :
    IsFirst needle (c :: cs) (i + 1) ↔ ¬ needle <+: c :: cs ∧ IsFirst needle cs i := by
  constructor
  · rintro ⟨hle, here, before⟩
    refine ⟨by simpa using before 0 (Nat.succ_pos i), ?_, by simpa using here, ?_⟩
    · simpa using hle
    · intro j hj
      simpa using before (j + 1) (Nat.succ_lt_succ hj)
  · rintro ⟨hfirst, hle, here, before⟩
    refine ⟨by simpa using hle, by simpa using here, ?_⟩
    rintro (_ | j) hj
    · simpa using hfirst
    · simpa using before j (Nat.lt_of_succ_lt_succ hj)

/-- The current position of `findFrom` is only added to what is found. -/
theorem findFrom_eq_some_iff (p i : Nat) :
    findFrom needle p text = some i ↔ p ≤ i ∧ IsFirst needle text (i - p) := by
  induction text generalizing p with
  | nil =>
    rw [findFrom]
    by_cases h : needle = []
    · subst h
      constructor
      · rintro ⟨⟩
        exact ⟨Nat.le_refl _, by simpa using IsFirst.zero (List.nil_prefix)⟩
      · rintro ⟨hp, hle, -, -⟩
        have : i - p = 0 := by simpa using hle
        simp only [List.isEmpty_nil, if_true, Option.some.injEq]
        omega
    · constructor
      · simp [h]
      · rintro ⟨-, -, here, -⟩
        exact absurd (by simpa using here) h
  | cons c cs ih =>
    rw [findFrom]
    by_cases h : needle <+: c :: cs
    · rw [if_pos (List.isPrefixOf_iff_prefix.mpr h)]
      constructor
      · rintro ⟨⟩
        exact ⟨Nat.le_refl _, by simpa using IsFirst.zero h⟩
      · rintro ⟨hp, -, -, before⟩
        have : ¬ 0 < i - p := fun h0 => before 0 h0 (by simpa using h)
        exact congrArg some (by omega)
    · rw [if_neg (fun h' => h (List.isPrefixOf_iff_prefix.mp h')), ih]
      constructor
      · rintro ⟨hp, hfirst⟩
        refine ⟨by omega, ?_⟩
        rw [show i - p = i - (p + 1) + 1 by omega]
        exact isFirst_succ_iff.mpr ⟨h, hfirst⟩
      · rintro ⟨hp, hfirst⟩
        have hlt : p < i := by
          refine Nat.lt_of_le_of_ne hp fun e => h ?_
          simpa [e] using hfirst.here
        rw [show i - p = i - (p + 1) + 1 by omega] at hfirst
        exact ⟨hlt, (isFirst_succ_iff.mp hfirst).2⟩

/-- `find?` gives the first occurrence. -/
theorem find?_eq_some_iff (i : Nat) : find? needle text = some i ↔ IsFirst needle text i := by
  simp [find?, findFrom_eq_some_iff]

/-- What is found lies within the text. -/
theorem add_length_le_of_find? {i : Nat} (h : find? needle text = some i) :
    i + needle.length ≤ text.length := by
  have hfirst := (find?_eq_some_iff i).mp h
  have hlen := hfirst.here.length_le
  have hle := hfirst.le_length
  rw [List.length_drop] at hlen
  omega

/-- Searching finds a needle exactly if it is an infix of the text. -/
theorem occursIn_iff : occursIn needle text = true ↔ needle <:+: text := by
  unfold occursIn
  constructor
  · intro h
    obtain ⟨i, hi⟩ := Option.isSome_iff_exists.mp h
    have here := ((find?_eq_some_iff i).mp hi).here
    exact here.isInfix.trans (List.drop_suffix i text).isInfix
  · rintro ⟨before, after, rfl⟩
    -- there is some occurrence, hence a first one
    have hex : ∃ i, i ≤ (before ++ needle ++ after).length ∧
        needle <+: (before ++ needle ++ after).drop i :=
      ⟨before.length, by simp, by simp⟩
    classical
    have hspec := Nat.find_spec hex
    have hfirst : IsFirst needle (before ++ needle ++ after) (Nat.find hex) := by
      refine ⟨hspec.1, hspec.2, fun j hj hpre => Nat.find_min hex hj ⟨?_, hpre⟩⟩
      exact Nat.le_of_lt (Nat.lt_of_lt_of_le hj hspec.1)
    rw [(find?_eq_some_iff _).mpr hfirst]
    rfl

/-! ## Replacing -/

variable {before after : List Char}

/-- A text with a needle is what stands before the first one, the needle and the rest. -/
theorem exists_of_occursIn (h : occursIn needle text = true) :
    ∃ before after, text = before ++ needle ++ after ∧
      find? needle text = some before.length := by
  obtain ⟨i, hi⟩ := Option.isSome_iff_exists.mp h
  have hfirst := (find?_eq_some_iff i).mp hi
  obtain ⟨after, hafter⟩ := hfirst.here
  refine ⟨text.take i, after, ?_, ?_⟩
  · rw [List.append_assoc, hafter, List.take_append_drop]
  · rw [hi, List.length_take_of_le hfirst.le_length]

/-- Whether a needle is the first one does not depend on what follows. -/
theorem find?_append_congr (h : find? needle (before ++ needle ++ after) = some before.length)
    (other : List Char) : find? needle (before ++ needle ++ other) = some before.length := by
  rw [find?_eq_some_iff] at h ⊢
  refine ⟨by simp, by simp, fun j hj hpre => h.not_before j hj ?_⟩
  have hle : j ≤ (before ++ needle).length := by
    rw [List.length_append]
    omega
  rw [List.drop_append_of_le_length hle] at hpre ⊢
  have hfits : needle.length ≤ ((before ++ needle).drop j).length := by
    rw [List.length_drop, List.length_append]
    omega
  exact (List.prefix_of_prefix_length_le hpre (List.prefix_append _ _) hfits).trans
    (List.prefix_append _ _)

/-- What stands on either side of the needle stays. -/
theorem replaceFirst_append (h : find? needle (before ++ needle ++ after) = some before.length)
    (replacement : List Char) :
    replaceFirst needle replacement (before ++ needle ++ after) =
      before ++ replacement ++ after := by
  rw [replaceFirst, h]
  dsimp only
  rw [← List.length_append, List.drop_left, List.append_assoc before needle, List.take_left]

/-- Of two needles the second can be replaced first: whatever is put in its place, the first one
stands where it stood. -/
theorem replaceFirst_two {first second : List Char}
    (h : (find? second text).any (fun i => occursIn first (text.take i)) = true) :
    ∃ before between after, text = before ++ first ++ between ++ second ++ after ∧
      ∀ one two, replaceFirst first one (replaceFirst second two text) =
        before ++ one ++ between ++ two ++ after := by
  obtain ⟨i, hi, hoccurs⟩ := (Option.any_eq_true ..).mp h
  obtain ⟨start, after, rfl, hsecond⟩ := exists_of_occursIn (by rw [occursIn, hi]; rfl)
  obtain rfl : i = start.length := Option.some.inj (hi.symm.trans hsecond)
  rw [List.append_assoc, List.take_left] at hoccurs
  obtain ⟨before, between, rfl, hfirst⟩ := exists_of_occursIn hoccurs
  refine ⟨before, between, after, rfl, fun one two => ?_⟩
  have hstays := find?_append_congr hfirst (between ++ two ++ after)
  have hfilled := replaceFirst_append hstays one
  rw [replaceFirst_append hsecond]
  simpa only [List.append_assoc] using hfilled

end ChatArchive.Text
