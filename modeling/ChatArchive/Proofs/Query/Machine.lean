import ChatArchive.Proofs.Query.Snippet
import ChatArchive.Word
import Mathlib.Data.String.Basic

/-!
# Snippets in words and bytes

A machine looks for a term at positions in bytes, and counts in words: a byte of the lowercase has
the position of the character that it comes from (`byteOwners`), a sum that is too great or a part
that is not in the text stops the program, and what is added around a span stops at the greatest
word.  None of this makes a difference (`snippetInWords_eq`): where the lowercase of the text is not
larger than the greatest word, nothing stops the program, and it comes to the same snippet.
-/

namespace ChatArchive

/-! ## Words -/

namespace Word

/-- The sum of two words; there is none beyond the greatest word. -/
def add? (bits a b : Nat) : Option Nat := if a + b ≤ maxNat bits then some (a + b) else none

/-- The difference of two words; there is none below zero. -/
def sub? (a b : Nat) : Option Nat := if b ≤ a then some (a - b) else none

/-- The sum of two words, or the greatest word. -/
def addUpTo (bits a b : Nat) : Nat := min (a + b) (maxNat bits)

/-- A sum that fits is the sum. -/
theorem add?_of_le {bits a b : Nat} (h : a + b ≤ maxNat bits) : add? bits a b = some (a + b) :=
  if_pos h

/-- A difference that is not negative is the difference. -/
theorem sub?_of_le {a b : Nat} (h : b ≤ a) : sub? a b = some (a - b) := if_pos h

end Word

namespace Query

open ChatArchive.Text

/-- The part of a list between two positions, if they are in order and in the list. -/
def slice? {α : Type} (xs : List α) (start stop : Nat) : Option (List α) :=
  if start ≤ stop ∧ stop ≤ xs.length then some ((xs.take stop).drop start) else none

/-! ## Bytes -/

/-- For each byte of the lowercase, the position in the text of the character that it comes from. -/
def byteOwners (text : List Char) : List Nat :=
  text.zipIdx.flatMap fun (c, i) => List.replicate (String.utf8Len (lowerChar c)) i

/-- Every element as often as the character beside it has bytes. -/
def spread (ks : List Nat) (cs : List Char) : List Nat :=
  (ks.zip cs).flatMap fun (k, c) => List.replicate c.utf8Size k

/-- The first element comes as often as its character has bytes. -/
theorem spread_cons (k : Nat) (ks : List Nat) (c : Char) (cs : List Char) :
    spread (k :: ks) (c :: cs) = List.replicate c.utf8Size k ++ spread ks cs := rfl

/-- Elements in a row are spread in a row. -/
theorem spread_append {ks : List Nat} {cs : List Char} (h : ks.length = cs.length)
    (ks' : List Nat) (cs' : List Char) :
    spread (ks ++ ks') (cs ++ cs') = spread ks cs ++ spread ks' cs' := by
  rw [spread, List.zip_append h, List.flatMap_append]
  rfl

/-- Every byte of a character has what stands beside the character. -/
theorem spread_getElem? {ks : List Nat} {cs : List Char} (h : ks.length = cs.length) {i x : Nat}
    (hi : i < cs.length) (hlow : String.utf8Len (cs.take i) ≤ x)
    (hhigh : x < String.utf8Len (cs.take (i + 1))) : (spread ks cs)[x]? = ks[i]? := by
  induction cs generalizing ks i x with
  | nil => exact absurd hi (Nat.not_lt_zero i)
  | cons c cs ih =>
    obtain ⟨k, ks, rfl⟩ := List.exists_cons_of_length_eq_add_one h
    rw [List.take_succ_cons, String.utf8Len_cons] at hhigh
    rw [spread_cons]
    cases i with
    | zero =>
      have hx : x < c.utf8Size := by simpa using hhigh
      rw [List.getElem?_append_left (by simpa using hx), List.getElem?_replicate, if_pos hx]
      rfl
    | succ i =>
      rw [List.take_succ_cons, String.utf8Len_cons] at hlow
      rw [List.getElem?_append_right (by rw [List.length_replicate]; omega),
        List.length_replicate, List.getElem?_cons_succ]
      exact ih (by simpa using h) (by simpa using hi) (by omega) (by omega)

/-- The bytes of both small sigmas are as many as those of the small sigma. -/
theorem utf8Len_lowerIn (before after : List Char) (c : Char) :
    String.utf8Len (lowerIn before c after) = String.utf8Len (lowerChar c) := by
  unfold lowerIn
  split_ifs with hc hfinal
  · rw [hc]
    decide +kernel
  · rw [hc]
    decide +kernel
  · rfl

/-- One element for all characters comes as often as they have bytes. -/
theorem spread_map_const (k : Nat) (cs : List Char) :
    spread (cs.map fun _ => k) cs = List.replicate (String.utf8Len cs) k := by
  induction cs with
  | nil => rfl
  | cons c cs ih =>
    rw [List.map_cons, spread_cons, ih, String.utf8Len_cons, Nat.add_comm, List.replicate_add]

/-- The bytes have the owners of the characters of the lowercase. -/
theorem byteOwners_eq_spread (text : List Char) :
    byteOwners text = spread (owners text) (lowercase text) := by
  have hfrom : ∀ before n,
      (text.zipIdx n).flatMap (fun (c, i) => List.replicate (String.utf8Len (lowerChar c)) i) =
        spread ((text.zipIdx n).flatMap fun (c, i) => (lowerChar c).map fun _ => i)
          (lowercaseFrom before [] text) := by
    induction text with
    | nil => exact fun _ _ => rfl
    | cons c text ih =>
      intro before n
      have hsame : (lowerChar c).map (fun _ => n) = (lowerIn before c text).map fun _ => n := by
        rw [List.map_const', List.map_const', length_lowerIn]
      rw [List.zipIdx_cons, List.flatMap_cons, List.flatMap_cons, lowercaseFrom_cons]
      dsimp only
      rw [hsame, spread_append (List.length_map ..), spread_map_const, utf8Len_lowerIn, ih]
  exact hfrom [] 0

/-! ## Positions -/

/-- The span of a term, by positions in bytes.  The outer level is `none` if the program would
stop, and the inner one if there is no such span. -/
def locateInBytes (text term : List Char) : Option (Option Span) :=
  if term.isEmpty then some none
  else match find? term (lowercase text) with
    | none => some none
    | some i => do
      let position := String.utf8Len ((lowercase text).take i)
      let last ← Word.sub? (← Word.add? 64 position (String.utf8Len term)) 1
      match (byteOwners text)[position]?, (byteOwners text)[last]? with
      | some start, some stop => do
        let stop ← Word.add? 64 stop 1
        return some ⟨start, ← Word.sub? stop start⟩
      | _, _ => some none

/-- An excerpt around a span in words. -/
def excerptInWords (text : List Char) (s : Span) (context : Nat) : Option (List Char) := do
  let start := s.start - context
  let stop := min (Word.addUpTo 64 (Word.addUpTo 64 s.start s.length) context) text.length
  let middle ← slice? text start stop
  return (if 0 < start then ellipsis else []) ++ middle.map flatten ++
    (if stop < text.length then ellipsis else [])

/-- The snippet of some terms, in words and bytes; `none` if the program would stop. -/
def snippetInWords (terms : List String) (text : String) (context : Nat) : Option String := do
  let spans ← terms.mapM fun term => locateInBytes text.toList term.toList
  match earliest (spans.filterMap id) with
  | none => return ""
  | some s => return String.ofList (← excerptInWords text.toList s context)

/-- Every character has a byte at least. -/
theorem length_le_utf8Len (cs : List Char) : cs.length ≤ String.utf8Len cs := by
  induction cs with
  | nil => exact Nat.le_refl 0
  | cons c cs ih =>
    have hpos := c.utf8Size_pos
    rw [List.length_cons, String.utf8Len_cons]
    omega

/-- A text has no more characters than its lowercase. -/
theorem length_le_length_lowercase (text : List Char) : text.length ≤ (lowercase text).length := by
  rw [lowercase, length_lowercaseFrom]
  induction text with
  | nil => exact Nat.le_refl 0
  | cons c text ih =>
    have hpos := List.length_pos_iff.mpr (lowerChar_ne_nil c)
    rw [List.flatMap_cons, List.length_append, List.length_cons]
    omega

/-- One more character takes more bytes. -/
theorem utf8Len_take_lt {cs : List Char} {i : Nat} (hi : i < cs.length) :
    String.utf8Len (cs.take i) < String.utf8Len (cs.take (i + 1)) := by
  have hpos := cs[i].utf8Size_pos
  rw [List.take_succ_eq_append_getElem hi, String.utf8Len_append, String.utf8Len_cons,
    String.utf8Len_nil]
  omega

/-- Up to the end of what was found, the text has the bytes before it and its own. -/
theorem utf8Len_of_find? {term text : List Char} {i : Nat} (h : find? term text = some i) :
    String.utf8Len (text.take (i + term.length)) =
      String.utf8Len (text.take i) + String.utf8Len term := by
  obtain ⟨after, hafter⟩ := ((find?_eq_some_iff i).mp h).here
  rw [List.take_add, ← hafter, List.take_left, String.utf8Len_append]

/-- The first byte of what was found belongs to its first character, and the last byte to the
last. -/
theorem byteOwners_of_find? {text term : List Char} {i : Nat} (hterm : term ≠ [])
    (h : find? term (lowercase text) = some i) :
    (byteOwners text)[String.utf8Len ((lowercase text).take i)]? = (owners text)[i]? ∧
      (byteOwners text)[String.utf8Len ((lowercase text).take i) + String.utf8Len term - 1]? =
        (owners text)[i + term.length - 1]? := by
  have hlength := add_length_le_of_find? h
  have hpos := List.length_pos_iff.mpr hterm
  have hstop := utf8Len_of_find? h
  obtain ⟨m, hm⟩ : ∃ m, i + term.length = m + 1 := ⟨i + term.length - 1, by omega⟩
  have hlast : i + term.length - 1 = m := by omega
  have hlower := utf8Len_take_lt (show m < (lowercase text).length by omega)
  rw [hm] at hstop
  rw [byteOwners_eq_spread, hlast]
  exact ⟨spread_getElem? (length_owners text) (by omega) (Nat.le_refl _)
    (utf8Len_take_lt (by omega)), spread_getElem? (length_owners text) (by omega) (by omega)
    (by omega)⟩

section

variable {text : List Char} (hsize : String.utf8Len (lowercase text) ≤ Word.maxNat 64)
include hsize

/-- A text of which the bytes can be counted has no more characters than can be counted. -/
theorem length_le_maxNat : text.length ≤ Word.maxNat 64 :=
  (length_le_length_lowercase text).trans ((length_le_utf8Len _).trans hsize)

/-- Positions in bytes lead to the same characters. -/
theorem locateInBytes_eq (term : List Char) :
    locateInBytes text term = some (locateTerm text term) := by
  by_cases hterm : term = []
  · simp [locateInBytes, locateTerm, hterm]
  cases hfind : find? term (lowercase text) with
  | none => simp [locateInBytes, locateTerm, hterm, hfind]
  | some i =>
    obtain ⟨first, last, hfirst, hlast, hle, hlt⟩ := exists_owners hterm hfind
    obtain ⟨hfirstByte, hlastByte⟩ := byteOwners_of_find? hterm hfind
    have hempty : term.isEmpty = false := by simpa using hterm
    have hstop : String.utf8Len ((lowercase text).take i) + String.utf8Len term ≤
        Word.maxNat 64 := by
      rw [← utf8Len_of_find? hfind]
      exact (String.utf8Len_le_of_prefix (List.take_prefix _ _)).trans hsize
    have hbytes : 1 ≤ String.utf8Len ((lowercase text).take i) + String.utf8Len term := by
      have := length_le_utf8Len term
      have := List.length_pos_iff.mpr hterm
      omega
    have hnext : last + 1 ≤ Word.maxNat 64 := (length_le_maxNat hsize).trans' hlt
    have hspan : first ≤ last + 1 := Nat.le_succ_of_le hle
    rw [locateTerm_of_find? hterm hfind hfirst hlast]
    simp only [locateInBytes, hempty, hfind, Word.add?_of_le hstop, Word.sub?_of_le hbytes,
      hfirstByte, hlastByte, hfirst, hlast, Word.add?_of_le hnext, Word.sub?_of_le hspan,
      Option.bind_eq_bind, Option.bind_some, Bool.false_eq_true, if_false]
    rfl

/-- What is added around a span stops at the greatest word, but the text ends before that. -/
theorem excerptInWords_eq {s : Span} (hs : s.FitsIn text.length) (context : Nat) :
    excerptInWords text s context = some (excerpt text s context) := by
  have hpos := hs.pos
  have hle := hs.le_length
  have hwords := length_le_maxNat hsize
  have hstop : min (Word.addUpTo 64 (Word.addUpTo 64 s.start s.length) context) text.length =
      min (s.start + s.length + context) text.length := by
    unfold Word.addUpTo
    omega
  have hslice : slice? text (s.start - context) (min (s.start + s.length + context) text.length) =
      some ((text.take (min (s.start + s.length + context) text.length)).drop
        (s.start - context)) :=
    if_pos ⟨by omega, Nat.min_le_right _ _⟩
  rw [excerptInWords, hstop]
  simp only [hslice, Option.bind_eq_bind, Option.bind_some]
  rfl

end

/-- Nothing stops the program, and it comes to the snippet. -/
theorem snippetInWords_eq {q : Query} {terms : List String} (h : q.mode.terms? = some terms)
    {text : String} (hsize : (lower text).utf8ByteSize ≤ Word.maxNat 64) (context : Nat) :
    snippetInWords terms text context = some (q.snippet text context) := by
  rw [lower, String.utf8ByteSize_ofList] at hsize
  have hspans : (terms.mapM fun term => locateInBytes text.toList term.toList) =
      some (terms.map fun term => locateTerm text.toList term.toList) := by
    simp only [locateInBytes_eq hsize]
    exact List.mapM_pure
  have hlocate := locate_of_terms h text.toList
  simp only [snippetInWords, hspans, Option.bind_eq_bind, Option.bind_some, List.filterMap_map,
    Function.id_comp]
  rw [← hlocate, snippet]
  cases hs : q.locate text.toList with
  | none => rfl
  | some s =>
    simp only [excerptInWords_eq hsize (locate_fits h hs)]
    rfl

end Query

end ChatArchive
