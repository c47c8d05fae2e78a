import ChatArchive.Text.Lowercase
import Mathlib.Data.List.Basic

/-!
# Lowercase, character by character

Every character of a text has its share of the lowercase (`lowercaseFrom_cons`), and `owners` says
of each character of the lowercase whose share it is in.  The final sigma changes a share but not
its length, so that the two lists run in step (`length_owners`).
-/

namespace ChatArchive.Text

/-! ## Shares -/

/-- Every character has a lowercase. -/
theorem lowerChar_ne_nil (c : Char) : lowerChar c ≠ [] := by
  unfold lowerChar
  split_ifs <;> simp

/-- A sigma that ends a word has as many characters in lowercase as any other. -/
theorem length_lowerIn (before after : List Char) (c : Char) :
    (lowerIn before c after).length = (lowerChar c).length := by
  unfold lowerIn
  by_cases h : c = 'Σ'
  · rw [if_pos h, h]
    simp [lowerChar]
  · rw [if_neg h]

/-- The lowercase so far is only put in front of the rest. -/
theorem lowercaseFrom_eq (before out cs : List Char) :
    lowercaseFrom before out cs = out.reverse ++ lowercaseFrom before [] cs := by
  induction cs generalizing before out with
  | nil => simp [lowercaseFrom]
  | cons c cs ih =>
    rw [lowercaseFrom, ih, lowercaseFrom, ih (c :: before) (_ ++ [])]
    simp

/-- The lowercase of a text is the share of its first character and that of the rest. -/
theorem lowercaseFrom_cons (before : List Char) (c : Char) (cs : List Char) :
    lowercaseFrom before [] (c :: cs) =
      lowerIn before c cs ++ lowercaseFrom (c :: before) [] cs := by
  rw [lowercaseFrom, lowercaseFrom_eq]
  simp

/-- The context decides which sigma is taken but not how many characters there are. -/
theorem length_lowercaseFrom (before cs : List Char) :
    (lowercaseFrom before [] cs).length = (cs.flatMap lowerChar).length := by
  induction cs generalizing before with
  | nil => rfl
  | cons c cs ih =>
    rw [lowercaseFrom_cons, List.length_append, ih, length_lowerIn, List.flatMap_cons,
      List.length_append]

/-- Only the empty text has an empty lowercase. -/
@[simp] theorem lowercase_eq_nil {cs : List Char} : lowercase cs = [] ↔ cs = [] := by
  cases cs with
  | nil => simp [lowercase, lowercaseFrom]
  | cons c cs =>
    have hlen := length_lowerIn [] cs c
    have hpos := List.length_pos_iff.mpr (lowerChar_ne_nil c)
    simp only [lowercase, lowercaseFrom_cons, reduceCtorEq, iff_false]
    intro h
    have hnil := (List.append_eq_nil_iff.mp h).1
    rw [hnil, List.length_nil] at hlen
    omega

/-! ## Owners -/

/-- Each character of the lowercase has an owner. -/
theorem length_owners (cs : List Char) : (owners cs).length = (lowercase cs).length := by
  have hshares : ∀ k, ((cs.zipIdx k).flatMap fun p => (lowerChar p.1).map fun _ => p.2).length =
      (cs.flatMap lowerChar).length := by
    induction cs with
    | nil => exact fun k => rfl
    | cons c cs ih =>
      intro k
      rw [List.zipIdx_cons, List.flatMap_cons, List.flatMap_cons, List.length_append,
        List.length_append, List.length_map, ih]
  rw [lowercase, length_lowercaseFrom]
  exact hshares 0

/-- An owner is a position of the text. -/
theorem lt_length_of_mem_owners {cs : List Char} {i : Nat} (h : i ∈ owners cs) :
    i < cs.length := by
  simp only [owners, List.mem_flatMap, List.mem_map] at h
  obtain ⟨⟨c, j⟩, hmem, -, -, rfl⟩ := h
  have := List.snd_lt_add_of_mem_zipIdx hmem
  simpa using this

/-- Later characters of the lowercase have later owners. -/
theorem owners_pairwise (cs : List Char) : (owners cs).Pairwise (· ≤ ·) := by
  unfold owners
  rw [List.pairwise_flatMap]
  constructor
  · rintro ⟨c, i⟩ -
    exact List.pairwise_map.mpr (List.pairwise_of_forall fun _ _ => Nat.le_refl i)
  · have hidx : (cs.zipIdx).Pairwise fun p q => p.2 < q.2 := by
      rw [List.pairwise_iff_getElem]
      intro i j hi hj hij
      simpa using hij
    refine hidx.imp ?_
    rintro ⟨c, i⟩ ⟨d, j⟩ hij a ha b hb
    simp only [List.mem_map] at ha hb
    obtain ⟨-, -, rfl⟩ := ha
    obtain ⟨-, -, rfl⟩ := hb
    exact Nat.le_of_lt hij

end ChatArchive.Text
