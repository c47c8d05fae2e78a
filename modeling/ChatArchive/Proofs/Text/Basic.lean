import ChatArchive.Text.Basic
import Mathlib.Data.List.DropRight

/-!
# Trimming, cutting and listing once

Trimming looks at the text from one end (`trimStart_append`, `trimEnd_append`), cutting at
separators is the splitting of lists (`splitBy_eq_splitOnP`), and listing every element once keeps
the first of equal ones (`dedup_eq_eraseDups`).
-/

namespace ChatArchive.Text

/-! ## Trimming -/

/-- Blanks in front are dropped, whatever follows. -/
theorem trimStart_append {x : List Char} (hx : ∀ c ∈ x, isBlank c = true) (y : List Char) :
    trimStart (x ++ y) = trimStart y := List.dropWhile_append_of_pos hx

/-- Nothing is dropped in front of a character that is not blank. -/
theorem trimStart_cons_of_not_blank {c : Char} (hc : isBlank c = false) (cs : List Char) :
    trimStart (c :: cs) = c :: cs := by
  rw [trimStart, List.dropWhile_cons_of_neg (by simp [hc])]

/-- Trimming at the end goes past blank text only. -/
theorem trimEnd_append (x y : List Char) :
    trimEnd (x ++ y) = if (trimEnd y).isEmpty then trimEnd x else x ++ trimEnd y := by
  simp only [trimEnd, List.reverse_append, List.dropWhile_append, List.isEmpty_reverse]
  split_ifs <;> simp

/-- Nothing is left exactly of blanks. -/
theorem trimEnd_eq_nil_iff {x : List Char} : trimEnd x = [] ↔ ∀ c ∈ x, isBlank c = true :=
  List.rdropWhile_eq_nil_iff

/-- Blanks behind a text are dropped. -/
theorem trimEnd_append_of_blank (x : List Char) {y : List Char} (hy : ∀ c ∈ y, isBlank c = true) :
    trimEnd (x ++ y) = trimEnd x := by
  rw [trimEnd_append, trimEnd_eq_nil_iff.mpr hy]
  rfl

/-- Text that ends without a blank still does so behind other text. -/
theorem trimEnd_append_of_trimmed (x : List Char) {y : List Char} (hne : y ≠ [])
    (hy : trimEnd y = y) : trimEnd (x ++ y) = x ++ y := by
  rw [trimEnd_append, hy, if_neg (by simpa using hne)]

/-- Once dropped, there are none left. -/
theorem trimEnd_trimEnd (x : List Char) : trimEnd (trimEnd x) = trimEnd x :=
  List.rdropWhile_idempotent isBlank x

/-- Trimming adds no character. -/
theorem mem_of_mem_trim {cs : List Char} {c : Char} (h : c ∈ trim cs) : c ∈ cs := by
  have hstart : c ∈ trimStart cs :=
    (List.rdropWhile_prefix isBlank (trimStart cs)).subset h
  exact (List.dropWhile_sublist isBlank).subset hstart

/-- A trimmed text does not begin with a blank. -/
theorem not_blank_of_head?_trim {x : List Char} : ∀ c ∈ (trim x).head?, isBlank c = false := by
  intro c hc
  have hprefix : trim x <+: trimStart x := List.rdropWhile_prefix isBlank (trimStart x)
  have hhead : (trimStart x).head? = some c := by
    obtain ⟨rest, hrest⟩ := hprefix
    rw [← hrest, List.head?_append, Option.mem_def.mp hc]
    rfl
  have hnot := List.head?_dropWhile_not isBlank x
  rw [trimStart] at hhead
  rw [hhead] at hnot
  simpa using hnot

/-- A text that starts with no blank stays. -/
theorem trimStart_of_not_blank {x : List Char} (h : ∀ c ∈ x.head?, isBlank c = false) :
    trimStart x = x := by
  cases x with
  | nil => rfl
  | cons c x => exact trimStart_cons_of_not_blank (h c rfl) x

/-- A trimmed text does not end with a blank. -/
theorem not_blank_of_getLast?_trim {x : List Char} :
    ∀ c ∈ (trim x).getLast?, isBlank c = false := by
  intro c hc
  have hnot := List.head?_dropWhile_not isBlank (trimStart x).reverse
  rw [trim, trimEnd, List.getLast?_reverse] at hc
  rw [Option.mem_def.mp hc] at hnot
  simpa using hnot

/-- A text that neither begins nor ends with a blank is trimmed. -/
theorem trim_of_not_blank {x : List Char} (hhead : ∀ c ∈ x.head?, isBlank c = false)
    (hlast : ∀ c ∈ x.getLast?, isBlank c = false) : trim x = x := by
  have hreverse : trimStart x.reverse = x.reverse :=
    trimStart_of_not_blank (by rwa [List.head?_reverse])
  rw [trim, trimStart_of_not_blank hhead, trimEnd]
  exact (congrArg List.reverse hreverse).trans x.reverse_reverse

/-- A text of blanks is the one that is trimmed to nothing. -/
theorem trim_eq_nil_iff {x : List Char} : trim x = [] ↔ ∀ c ∈ x, isBlank c = true := by
  rw [trim, trimEnd_eq_nil_iff]
  constructor
  · intro h
    have hhead := List.head?_dropWhile_not isBlank x
    cases hx : x.dropWhile isBlank with
    | nil => exact List.dropWhile_eq_nil_iff.mp hx
    | cons c rest =>
      rw [trimStart, hx] at h
      rw [hx] at hhead
      exact absurd (h c List.mem_cons_self) (by simpa using hhead)
  · intro h c hc
    exact h c (List.dropWhile_subset isBlank hc)

/-- What is trimmed stays as it is. -/
theorem trim_trim (x : List Char) : trim (trim x) = trim x :=
  trim_of_not_blank not_blank_of_head?_trim not_blank_of_getLast?_trim

/-! ## Cutting -/

/-- The empty text is one empty piece. -/
theorem splitBy_nil (p : Char → Bool) : splitBy p [] = [[]] := rfl

/-- A separator starts a new piece, another character goes to the first one. -/
theorem splitBy_cons (p : Char → Bool) (c : Char) (cs : List Char) :
    splitBy p (c :: cs) = if p c then [] :: splitBy p cs else match splitBy p cs with
      | x :: rest => (c :: x) :: rest
      | [] => [[c]] := rfl

/-- Cutting is the splitting of lists. -/
theorem splitBy_eq_splitOnP (p : Char → Bool) (cs : List Char) :
    splitBy p cs = cs.splitOnP p := by
  induction cs with
  | nil => rfl
  | cons c cs ih =>
    rw [splitBy_cons, List.splitOnP_cons_eq_if_modifyHead, ih]
    split_ifs
    · rfl
    · cases h : cs.splitOnP p with
      | nil => exact absurd h (List.splitOnP_ne_nil p cs)
      | cons x rest => rfl

/-- A separator stands between the pieces before it and those after it. -/
theorem splitBy_append_cons {p : Char → Bool} {c : Char} (hc : p c = true) (as bs : List Char) :
    splitBy p (as ++ c :: bs) = splitBy p as ++ splitBy p bs := by
  simp only [splitBy_eq_splitOnP, List.splitOnP_append_cons as bs hc]

/-- A text without separators is one piece. -/
theorem splitBy_of_forall {p : Char → Bool} {cs : List Char} (h : ∀ c ∈ cs, p c = false) :
    splitBy p cs = [cs] := by
  rw [splitBy_eq_splitOnP, List.splitOnP_eq_singleton h]

/-- The pieces are made up of the characters that do not separate. -/
theorem mem_of_mem_splitBy {p : Char → Bool} {cs piece : List Char} (h : piece ∈ splitBy p cs) :
    ∀ c ∈ piece, c ∈ cs ∧ p c = false := by
  induction cs generalizing piece with
  | nil =>
    obtain rfl := List.mem_singleton.mp h
    exact fun c hc => absurd hc List.not_mem_nil
  | cons d cs ih =>
    have hbehind : ∀ x ∈ splitBy p cs, ∀ c ∈ x, c ∈ d :: cs ∧ p c = false := fun x hx c hc =>
      ⟨List.mem_cons_of_mem d (ih hx c hc).1, (ih hx c hc).2⟩
    rw [splitBy_cons] at h
    split_ifs at h with hd
    · rcases List.mem_cons.mp h with rfl | h
      · exact fun c hc => absurd hc List.not_mem_nil
      · exact hbehind piece h
    · have hd : p d = false := eq_false_of_ne_true hd
      rcases hpieces : splitBy p cs with _ | ⟨x, rest⟩ <;> rw [hpieces] at h hbehind
      · obtain rfl := List.mem_singleton.mp h
        simpa using hd
      · rcases List.mem_cons.mp h with rfl | h
        · exact List.forall_mem_cons.mpr ⟨⟨List.mem_cons_self, hd⟩, hbehind x List.mem_cons_self⟩
        · exact hbehind piece (List.mem_cons_of_mem x h)

/-- Every character that does not separate is in a piece. -/
theorem exists_mem_splitBy {p : Char → Bool} {cs : List Char} {c : Char} (hc : c ∈ cs)
    (hp : p c = false) : ∃ piece ∈ splitBy p cs, c ∈ piece := by
  induction cs with
  | nil => exact absurd hc List.not_mem_nil
  | cons d cs ih =>
    rw [splitBy_cons]
    split_ifs with hd
    · rcases List.mem_cons.mp hc with rfl | hc
      · exact absurd hd (by simp [hp])
      · obtain ⟨piece, hpiece, hmem⟩ := ih hc
        exact ⟨piece, List.mem_cons_of_mem _ hpiece, hmem⟩
    · cases hpieces : splitBy p cs with
      | nil =>
        rw [splitBy_eq_splitOnP] at hpieces
        exact absurd hpieces (List.splitOnP_ne_nil p cs)
      | cons x rest =>
        rw [hpieces] at ih
        rcases List.mem_cons.mp hc with rfl | hc
        · exact ⟨c :: x, List.mem_cons_self, List.mem_cons_self⟩
        · obtain ⟨piece, hpiece, hmem⟩ := ih hc
          rcases List.mem_cons.mp hpiece with rfl | hpiece
          · exact ⟨d :: piece, List.mem_cons_self, List.mem_cons_of_mem d hmem⟩
          · exact ⟨piece, List.mem_cons_of_mem _ hpiece, hmem⟩

/-- There is at least one piece. -/
theorem exists_splitBy_eq_cons (p : Char → Bool) (cs : List Char) :
    ∃ piece pieces, splitBy p cs = piece :: pieces := by
  rw [splitBy_eq_splitOnP]
  exact List.exists_cons_of_ne_nil (List.splitOnP_ne_nil p cs)

/-- What does not separate lengthens the first piece behind it. -/
theorem splitBy_append_of_forall {p : Char → Bool} {x : List Char} (hx : ∀ c ∈ x, p c = false)
    {cs piece : List Char} {pieces : List (List Char)} (hcs : splitBy p cs = piece :: pieces) :
    splitBy p (x ++ cs) = (x ++ piece) :: pieces := by
  induction x with
  | nil => exact hcs
  | cons c x ih =>
    obtain ⟨hc, hx⟩ := List.forall_mem_cons.mp hx
    rw [List.cons_append, splitBy_cons, hc, ih hx]
    rfl

/-- Cutting at separators of two kinds is cutting the pieces between those of the one kind at those
of the other. -/
theorem splitBy_or (p q : Char → Bool) (cs : List Char) :
    splitBy (fun c => p c || q c) cs = (splitBy q cs).flatMap (splitBy p) := by
  induction cs with
  | nil => rfl
  | cons c cs ih =>
    obtain ⟨x, xs, hx⟩ := exists_splitBy_eq_cons q cs
    obtain ⟨y, ys, hy⟩ := exists_splitBy_eq_cons p x
    rw [hx, List.flatMap_cons, hy] at ih
    rw [splitBy_cons, splitBy_cons, ih, hx]
    cases hq : q c with
    | true => simp [hy, splitBy_nil]
    | false =>
      cases hp : p c with
      | true => simp [splitBy_cons, hy, hp]
      | false => simp [splitBy_cons, hy, hp]

/-- The fields between two kinds of separators are those of the one kind in the pieces between the
others. -/
theorem fields_or (p q : Char → Bool) (cs : List Char) :
    fields (fun c => p c || q c) cs = (splitBy q cs).flatMap (fields p) := by
  rw [fields, splitBy_or, List.filter_flatMap]
  rfl

/-- Pieces hold a character, and none that separates. -/
theorem of_mem_fields {p : Char → Bool} {cs piece : List Char} (h : piece ∈ fields p cs) :
    piece ≠ [] ∧ ∀ c ∈ piece, p c = false := by
  obtain ⟨hsplit, hne⟩ := List.mem_filter.mp h
  exact ⟨by simpa using hne, fun c hc => (mem_of_mem_splitBy hsplit c hc).2⟩

/-! ## Listing once -/

/-- Every element is listed where it occurs first. -/
theorem dedup_eq_eraseDups {α : Type} [BEq α] (xs : List α) : dedup xs = xs.eraseDups := by
  have hloop : ∀ seen : List α,
      (xs.foldl (fun seen x => if seen.contains x then seen else x :: seen) seen).reverse =
        List.eraseDupsBy.loop (· == ·) xs seen := by
    induction xs with
    | nil => exact fun seen => rfl
    | cons x xs ih =>
      intro seen
      rw [List.foldl_cons, ih, List.eraseDupsBy.loop]
      cases hx : seen.contains x with
      | true =>
        have hany : seen.any (x == ·) = true := by simpa [List.contains_eq_any_beq] using hx
        simp [hany]
      | false =>
        have hany : seen.any (x == ·) = false := by simpa [List.contains_eq_any_beq] using hx
        simp [hany]
  exact hloop []

end ChatArchive.Text
