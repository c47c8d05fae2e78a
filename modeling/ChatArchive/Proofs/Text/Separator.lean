import ChatArchive.Proofs.Unicode.Property
import ChatArchive.Proofs.Text.Lowercase
import ChatArchive.Proofs.Text.Basic

/-!
# Separators

A comma or a blank has no letter case, and a word-final sigma does not look past it: no table of
the characters with case, or of those to look past, has a range that reaches one
(`not_cased_of_separates`, `not_caseIgnorable_of_separates`).  The lowercase of a text is therefore
that of its pieces between separators (`lowercase_append`).
-/

namespace ChatArchive.Text

open ChatArchive.Unicode

/-- The characters that stand between words and between the terms of a list. -/
def Separates (c : Char) : Prop := c = ',' ∨ isBlank c = true

/-! ## Tables

The tables are looked up range by range: a search in the sets that are built from them would have
to sort them first. -/

/-- Blanks are the characters of the white space. -/
theorem isBlank_iff_holds {c : Char} :
    isBlank c = true ↔ CharSet.Holds CharSet.whiteSpace.ranges c.toNat := by
  refine CharSet.contains_iff ?_ c
  unfold CharSet.Ordered CharSet.whiteSpace
  simp [CharSet.Increasing]

/-- The code points of the separators. -/
def separatorRanges : List (Nat × Nat) := (0x2C, 0x2C) :: CharSet.whiteSpace.ranges

/-- Separators lie in the ranges that are checked against the tables. -/
theorem holds_separatorRanges {c : Char} (hc : Separates c) :
    CharSet.Holds separatorRanges c.toNat := by
  unfold separatorRanges
  rw [CharSet.holds_cons]
  rcases hc with rfl | hc
  · exact .inl (by decide)
  · exact .inr (isBlank_iff_holds.mp hc)

/-- The categories of characters with case and of those that a sigma looks past. -/
theorem apart_table {k : Category}
    (hk : k ∈ Property.cased.categories ++ Property.caseIgnorable.categories) :
    Apart separatorRanges k.table := by
  simp only [Property.cased, Property.caseIgnorable, List.cons_append, List.nil_append,
    List.mem_cons, List.not_mem_nil, or_false] at hk
  rcases hk with rfl | rfl | rfl | rfl | rfl | rfl | rfl | rfl
  all_goals
    unfold Category.table
    repeat' refine apart_cons (by decide +kernel) ?_
    exact apart_nil

/-- A separator is no cased letter. -/
theorem not_cased_of_separates {c : Char} (hc : Separates c) : casedSet.contains c = false := by
  have hadded : Apart separatorRanges Property.cased.added := by
    unfold Property.cased
    repeat' refine apart_cons (by decide +kernel) ?_
    exact apart_nil
  exact not_contains_members (fun k hk => apart_table (List.mem_append_left _ hk)) hadded
    (holds_separatorRanges hc)

/-- Nor does the search for a cased letter pass over it. -/
theorem not_caseIgnorable_of_separates {c : Char} (hc : Separates c) :
    caseIgnorableSet.contains c = false := by
  have hadded : Apart separatorRanges Property.caseIgnorable.added := by
    unfold Property.caseIgnorable
    repeat' refine apart_cons (by decide +kernel) ?_
    exact apart_nil
  exact not_contains_members (fun k hk => apart_table (List.mem_append_right _ hk)) hadded
    (holds_separatorRanges hc)

/-! ## Lowercase between separators -/

/-- The text does not go on, or goes on with a separator. -/
def Stops (cs : List Char) : Prop := ∀ c ∈ cs.head?, Separates c

/-- The end of a text stops the search as well. -/
theorem stops_nil : Stops [] := fun c hc => absurd hc (by simp)

/-- A sigma does not look past a separator. -/
theorem reachesCased_append {stop : List Char} (hstop : Stops stop) (cs : List Char) :
    reachesCased (cs ++ stop) = reachesCased cs := by
  have hstopped : reachesCased stop = false := by
    cases stop with
    | nil => rfl
    | cons c stop =>
      have hignored := not_caseIgnorable_of_separates (hstop c rfl)
      rw [reachesCased, List.dropWhile_cons_of_neg (by simp [hignored])]
      exact not_cased_of_separates (hstop c rfl)
  unfold reachesCased at hstopped ⊢
  rw [List.dropWhile_append]
  cases cs.dropWhile caseIgnorableSet.contains with
  | nil => exact hstopped
  | cons c rest => rfl

/-- A letter has the same lowercase if the text goes on behind a stop on either side. -/
theorem lowerIn_append {stop stop' : List Char} (hstop : Stops stop) (hstop' : Stops stop')
    (before : List Char) (c : Char) (after : List Char) :
    lowerIn (before ++ stop) c (after ++ stop') = lowerIn before c after := by
  unfold lowerIn isWordFinal
  rw [reachesCased_append hstop, reachesCased_append hstop']

/-- What stands before a separator does not count behind it. -/
theorem lowercaseFrom_append_left {stop : List Char} (hstop : Stops stop)
    (before cs : List Char) :
    lowercaseFrom (before ++ stop) [] cs = lowercaseFrom before [] cs := by
  induction cs generalizing before with
  | nil => rfl
  | cons c cs ih =>
    have hshare := lowerIn_append hstop stops_nil before c cs
    rw [List.append_nil] at hshare
    rw [lowercaseFrom_cons, lowercaseFrom_cons, hshare, ← List.cons_append, ih]

/-- What stands behind a separator does not count before it. -/
theorem lowercaseFrom_append_right {stop : List Char} (hstop : Stops stop)
    (before cs : List Char) : lowercaseFrom before [] (cs ++ stop) =
      lowercaseFrom before [] cs ++ lowercaseFrom (cs.reverse ++ before) [] stop := by
  induction cs generalizing before with
  | nil => rfl
  | cons c cs ih =>
    have hshare := lowerIn_append stops_nil hstop before c cs
    rw [List.append_nil] at hshare
    rw [List.cons_append, lowercaseFrom_cons, lowercaseFrom_cons, hshare, ih, List.append_assoc]
    simp

/-- The lowercase of a text is that of what stands before a separator and behind it. -/
theorem lowercase_append_cons {c : Char} (hc : Separates c) (xs ys : List Char) :
    lowercase (xs ++ c :: ys) = lowercase xs ++ lowerChar c ++ lowercase ys := by
  have hstop : ∀ rest, Stops (c :: rest) := by
    intro rest d hd
    obtain rfl := Option.some.inj hd
    exact hc
  have hsigma : c ≠ 'Σ' := by
    rintro rfl
    rcases hc with hc | hc
    · exact absurd hc (by decide)
    · exact absurd hc (by decide)
  have hleft := lowercaseFrom_append_left (hstop (xs.reverse ++ [])) [] ys
  rw [List.nil_append] at hleft
  rw [lowercase, lowercaseFrom_append_right (hstop ys), lowercaseFrom_cons, hleft, lowerIn,
    if_neg hsigma, ← List.append_assoc]
  rfl

/-- A piece between separators has the lowercase that it has in the text. -/
theorem lowercase_infix_of_mem_splitBy {p : Char → Bool} (hp : ∀ c, p c = true → Separates c)
    {cs piece : List Char} (h : piece ∈ splitBy p cs) : lowercase piece <:+: lowercase cs := by
  -- by the length, since a separator leaves two shorter texts
  induction hlen : cs.length using Nat.strongRecOn generalizing cs with
  | ind n ih =>
    by_cases hsep : ∃ c ∈ cs, p c = true
    · obtain ⟨c, hmem, hc⟩ := hsep
      obtain ⟨xs, ys, rfl⟩ := List.append_of_mem hmem
      rw [List.length_append, List.length_cons] at hlen
      rw [lowercase_append_cons (hp c hc)]
      rw [splitBy_append_cons hc] at h
      rcases List.mem_append.mp h with h | h
      · have hleft : lowercase piece <:+: lowercase xs := ih xs.length (by omega) h rfl
        rw [List.append_assoc]
        exact hleft.trans (List.prefix_append _ _).isInfix
      · have hright : lowercase piece <:+: lowercase ys := ih ys.length (by omega) h rfl
        exact hright.trans (List.suffix_append _ _).isInfix
    · have hnone : ∀ c ∈ cs, p c = false := fun c hc =>
        eq_false_of_ne_true fun hsome => hsep ⟨c, hc, hsome⟩
      rw [splitBy_of_forall hnone, List.mem_singleton] at h
      exact h ▸ List.infix_rfl

end ChatArchive.Text
