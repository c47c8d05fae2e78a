import ChatArchive.Proofs.Text.Sigma
import Mathlib.Order.Monotone.Basic

/-!
# Where the shares of characters begin

The lowercase of a text is made up of the shares of its characters, one behind the other: that of
character `k` begins at `shareStart text k`, where the one before it ends (`shareStart_succ`).  A
character of the lowercase stands in the share of its owner (`shareStart_of_owner`).
-/

namespace ChatArchive.Text

/-- The position in the lowercase of a text at which the share of its character `k` begins. -/
def shareStart (text : List Char) (k : Nat) : Nat :=
  (lowercaseWithin [] (text.drop k) (text.take k)).length

/-- The share of a character starts where those of the ones before it end. -/
theorem shareStart_eq (text : List Char) (k : Nat) :
    shareStart text k = ((text.take k).flatMap lowerChar).length :=
  length_lowercaseWithin ..

/-- It ends after the mapping of the character. -/
theorem shareStart_succ {text : List Char} {k : Nat} (hk : k < text.length) :
    shareStart text (k + 1) = shareStart text k + (lowerChar text[k]).length := by
  rw [shareStart_eq, shareStart_eq, List.take_succ_eq_append_getElem hk, List.flatMap_append,
    List.length_append, List.flatMap_singleton]

/-- The shares stand in the order of their characters. -/
theorem shareStart_mono (text : List Char) : Monotone (shareStart text) := by
  refine monotone_nat_of_le_succ fun k => ?_
  by_cases hk : k < text.length
  · rw [shareStart_succ hk]
    exact Nat.le_add_right ..
  · rw [shareStart_eq, shareStart_eq, List.take_of_length_le (by omega),
      List.take_of_length_le (by omega)]

/-- A last character owns the characters of its mapping. -/
theorem owners_concat (text : List Char) (c : Char) :
    owners (text ++ [c]) = owners text ++ List.replicate (lowerChar c).length text.length := by
  rw [owners, owners, List.zipIdx_append, List.flatMap_append]
  simp [List.map_const']

/-- A character of the lowercase stands in the share of its owner. -/
theorem shareStart_of_owner {text : List Char} {p k : Nat} (h : (owners text)[p]? = some k) :
    shareStart text k ≤ p ∧ p < shareStart text (k + 1) := by
  simp only [shareStart_eq]
  induction text using List.reverseRecOn with
  | nil => simp [owners] at h
  | append_singleton text c ih =>
    have hlength : (owners text).length = (text.flatMap lowerChar).length := by
      rw [length_owners, lowercase, length_lowercaseFrom]
    rw [owners_concat] at h
    by_cases hp : p < (owners text).length
    · rw [List.getElem?_append_left hp] at h
      have hk : k < text.length := lt_length_of_mem_owners (List.mem_of_getElem? h)
      rw [List.take_append_of_le_length hk.le, List.take_append_of_le_length hk]
      exact ih h
    · rw [List.getElem?_append_right (by omega), List.getElem?_replicate] at h
      split_ifs at h with hshare
      obtain rfl := Option.some.inj h
      rw [List.take_left, List.take_of_length_le (by simp), List.flatMap_append,
        List.length_append, List.flatMap_singleton]
      omega

end ChatArchive.Text
