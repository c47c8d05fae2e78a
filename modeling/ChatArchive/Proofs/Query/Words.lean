import ChatArchive.Proofs.Text.Basic

/-!
# Words

The words of a text are its runs of characters between blanks, each with the blanks in front of it.
Spelling them gives the text back (`spell_words`), and words that are kept apart by blanks are read
as they were spelled (`words_spell`).
-/

namespace ChatArchive.Query

open ChatArchive.Text

/-- No gap at all is one of blanks. -/
theorem blank_of_mem_nil : ∀ c ∈ [], isBlank c = true := List.forall_mem_nil _

/-- A space is made up of blanks. -/
theorem blank_of_mem_space : ∀ c ∈ [' '], isBlank c = true := List.all_eq_true.mp (by decide)

/-- A text without blanks, by looking at all of its characters. -/
theorem solid_of_all {l : List Char} (hl : (l.all fun c => !isBlank c) = true) :
    ∀ c ∈ l, isBlank c = false := by
  simpa using hl

/-- A word of a text, and the blanks in front of it. -/
structure Word where
  gap : List Char
  letters : List Char
  gap_blank : ∀ c ∈ gap, isBlank c = true
  letters_solid : ∀ c ∈ letters, isBlank c = false
  letters_ne_nil : letters ≠ []
  deriving DecidableEq

/-- The word behind other blanks. -/
def Word.behind (gap : List Char) (hgap : ∀ c ∈ gap, isBlank c = true) (w : Word) : Word :=
  { w with gap := gap, gap_blank := hgap }

/-- The characters of some words, with the blanks in front of each. -/
def spell (ws : List Word) : List Char := ws.flatMap fun w => w.gap ++ w.letters

/-- No words, no text. -/
@[simp] theorem spell_nil : spell [] = [] := rfl

/-- A word is spelt with its gap before it. -/
@[simp] theorem spell_cons (w : Word) (ws : List Word) :
    spell (w :: ws) = w.gap ++ w.letters ++ spell ws := rfl

/-- Words in a row are spelt in a row. -/
@[simp] theorem spell_append (ws vs : List Word) : spell (ws ++ vs) = spell ws ++ spell vs :=
  List.flatMap_append

/-! ## Reading words -/

/-- A blank in front of some words widens the gap of the first. -/
def widen (c : Char) (hc : isBlank c = true) : List Word → List Word
  | [] => []
  | w :: ws => w.behind (c :: w.gap) (List.forall_mem_cons.mpr ⟨hc, w.gap_blank⟩) :: ws

/-- The word of one character. -/
def Word.single (c : Char) (hc : isBlank c = false) : Word where
  gap := []
  letters := [c]
  gap_blank := blank_of_mem_nil
  letters_solid := by simpa using hc
  letters_ne_nil := by simp

/-- The word with one more character in front. -/
def Word.lengthen (c : Char) (hc : isBlank c = false) (w : Word) : Word where
  gap := []
  letters := c :: w.letters
  gap_blank := blank_of_mem_nil
  letters_solid := List.forall_mem_cons.mpr ⟨hc, w.letters_solid⟩
  letters_ne_nil := by simp

/-- A character that is no blank belongs to the word behind it, unless there is a gap between. -/
def extend (c : Char) (hc : isBlank c = false) : List Word → List Word
  | [] => [.single c hc]
  | w :: ws => if w.gap = [] then w.lengthen c hc :: ws else .single c hc :: w :: ws

/-- The words of a text; blanks behind the last one are lost. -/
def words : List Char → List Word
  | [] => []
  | c :: cs => if hc : isBlank c = true then widen c hc (words cs)
    else extend c (eq_false_of_ne_true hc) (words cs)

/-- A blank widens the gap before the first word. -/
theorem words_cons_of_blank {c : Char} (hc : isBlank c = true) (cs : List Char) :
    words (c :: cs) = widen c hc (words cs) := dif_pos hc

/-- Any other character is a letter of the first word, or a word before it. -/
theorem words_cons_of_not_blank {c : Char} (hc : isBlank c = false) (cs : List Char) :
    words (c :: cs) = extend c hc (words cs) := dif_neg (by simp [hc])

/-- A blank more before the first word is a blank more in the text. -/
theorem spell_widen {c : Char} (hc : isBlank c = true) {ws : List Word} (hws : ws ≠ []) :
    spell (widen c hc ws) = c :: spell ws := by
  cases ws with
  | nil => exact absurd rfl hws
  | cons w ws => rfl

/-- A letter more before the words is a letter more in the text. -/
theorem spell_extend {c : Char} (hc : isBlank c = false) (ws : List Word) :
    spell (extend c hc ws) = c :: spell ws := by
  cases ws with
  | nil => rfl
  | cons w ws =>
    rw [extend]
    split_ifs with hgap
    · simp [Word.lengthen, hgap]
    · simp [Word.single]

/-- Words have a text. -/
theorem spell_eq_nil_iff {ws : List Word} : spell ws = [] ↔ ws = [] := by
  cases ws with
  | nil => simp
  | cons w ws => simp [w.letters_ne_nil]

/-- The words of a text spell it, but for the blanks at its end. -/
theorem spell_words (cs : List Char) : spell (words cs) = trimEnd cs := by
  induction cs with
  | nil => rfl
  | cons c cs ih =>
    have hfront : trimEnd (c :: cs) = _ := trimEnd_append [c] cs
    rw [hfront, ← ih]
    cases hc : isBlank c with
    | true =>
      rw [words_cons_of_blank hc]
      by_cases hws : words cs = []
      · simp [hws, widen, trimEnd, hc]
      · rw [spell_widen hc hws, if_neg (by simpa [spell_eq_nil_iff] using hws)]
        rfl
    | false =>
      rw [words_cons_of_not_blank hc, spell_extend]
      split_ifs with hnil
      · simp [List.isEmpty_iff.mp hnil, trimEnd, hc]
      · rfl

/-! ## Words that are kept apart -/

/-- There are blanks in front of every word. -/
def Spaced (ws : List Word) : Prop := ∀ w ∈ ws, w.gap ≠ []

/-- Behind the first of them, words stay apart. -/
theorem Spaced.tail {w : Word} {ws : List Word} (h : Spaced (w :: ws)) : Spaced ws :=
  fun v hv => h v (List.mem_cons_of_mem w hv)

/-- The first word may stand at the front, and the others have blanks in front of them. -/
theorem spaced_tail_words (cs : List Char) : Spaced (words cs).tail := by
  induction cs with
  | nil => exact fun w hw => absurd hw List.not_mem_nil
  | cons c cs ih =>
    cases hc : isBlank c with
    | true =>
      rw [words_cons_of_blank hc]
      cases hws : words cs with
      | nil => exact fun w hw => absurd hw List.not_mem_nil
      | cons w ws => simpa [hws, widen] using ih
    | false =>
      rw [words_cons_of_not_blank hc]
      cases hws : words cs with
      | nil => exact fun w hw => absurd hw List.not_mem_nil
      | cons w ws =>
        rw [extend]
        split_ifs with hgap
        · simpa [hws] using ih
        · rw [hws] at ih
          exact List.forall_mem_cons.mpr ⟨hgap, ih⟩

/-- A text that begins with a word has no blanks in front of it. -/
theorem gap_words_of_not_blank {c : Char} (hc : isBlank c = false) (cs : List Char) :
    ∃ w ws, words (c :: cs) = w :: ws ∧ w.gap = [] := by
  rw [words_cons_of_not_blank hc]
  cases words cs with
  | nil => exact ⟨_, _, rfl, rfl⟩
  | cons w ws =>
    rw [extend]
    split_ifs
    · exact ⟨_, _, rfl, rfl⟩
    · exact ⟨_, _, rfl, rfl⟩

/-- The pieces between blanks are the words, and the first piece is empty unless the text begins
with a word. -/
theorem splitBy_isBlank (cs : List Char) : ∃ piece pieces,
    splitBy isBlank cs = piece :: pieces ∧
    (words cs).map Word.letters = (piece :: pieces).filter (fun p => !p.isEmpty) ∧
    (piece = [] ↔ ∀ w ∈ (words cs).head?, w.gap ≠ []) := by
  induction cs with
  | nil => exact ⟨[], [], rfl, rfl, by simp [words]⟩
  | cons c cs ih =>
    obtain ⟨piece, pieces, hsplit, hletters, hempty⟩ := ih
    rw [splitBy_cons, hsplit]
    cases hc : isBlank c with
    | true =>
      refine ⟨[], piece :: pieces, rfl, ?_, ?_⟩
      · rw [words_cons_of_blank hc, List.filter_cons_of_neg (by simp), ← hletters]
        cases words cs <;> rfl
      · rw [words_cons_of_blank hc]
        cases words cs <;> simp [widen, Word.behind]
    | false =>
      refine ⟨c :: piece, pieces, by simp, ?_, ?_⟩
      · rw [words_cons_of_not_blank hc, List.filter_cons_of_pos (by simp)]
        cases hws : words cs with
        | nil =>
          rw [hws] at hletters hempty
          obtain rfl : piece = [] := hempty.mpr (by simp)
          rw [List.filter_cons_of_neg (by simp)] at hletters
          rw [← hletters]
          rfl
        | cons w ws =>
          rw [hws] at hletters hempty
          rw [extend]
          split_ifs with hgap
          · have hpiece : piece ≠ [] := by simpa [hgap] using hempty
            rw [List.filter_cons_of_pos (by simpa using hpiece)] at hletters
            obtain ⟨hw, hws⟩ := List.cons.inj hletters
            simp [Word.lengthen, hws, ← hw]
          · obtain rfl : piece = [] := hempty.mpr (by simpa using hgap)
            rw [List.filter_cons_of_neg (by simp)] at hletters
            rw [← hletters]
            rfl
      · obtain ⟨w, ws, hwords, hgap⟩ := gap_words_of_not_blank hc cs
        simp [hwords, hgap]

/-- The words of a text are what it holds between blanks. -/
theorem letters_words (cs : List Char) : (words cs).map Word.letters = fields isBlank cs := by
  obtain ⟨piece, pieces, hsplit, hletters, -⟩ := splitBy_isBlank cs
  rw [hletters, fields, hsplit]

/-- Blanks in front of a text widen the gap in front of its first word. -/
theorem words_append_of_blank {g cs : List Char} (hg : ∀ c ∈ g, isBlank c = true) {w : Word}
    {ws : List Word} (hcs : words cs = w :: ws) :
    words (g ++ cs) = w.behind (g ++ w.gap) (by
      simpa [or_imp, forall_and] using ⟨hg, w.gap_blank⟩) :: ws := by
  induction g with
  | nil => exact hcs
  | cons c g ih =>
    obtain ⟨hc, hg⟩ := List.forall_mem_cons.mp hg
    rw [List.cons_append, words_cons_of_blank hc, ih hg]
    rfl

/-- Characters in front of a gap, or of nothing, are a word. -/
theorem words_append_of_solid {l cs : List Char} (hl : ∀ c ∈ l, isBlank c = false) (hne : l ≠ [])
    (hcs : Spaced ((words cs).take 1)) :
    words (l ++ cs) = ⟨[], l, blank_of_mem_nil, hl, hne⟩ :: words cs := by
  induction l with
  | nil => exact absurd rfl hne
  | cons c l ih =>
    obtain ⟨hc, hl⟩ := List.forall_mem_cons.mp hl
    rw [List.cons_append, words_cons_of_not_blank hc]
    by_cases hempty : l = []
    · subst hempty
      cases hws : words cs with
      | nil => simp [hws, extend, Word.single]
      | cons w ws =>
        have hgap : w.gap ≠ [] := hcs w (by simp [hws])
        simp [hws, extend, hgap, Word.single]
    · rw [ih hl hempty, extend, if_pos rfl]
      rfl

/-- Words that are kept apart are read as they were spelled. -/
theorem words_spell {ws : List Word} (hws : Spaced ws.tail) : words (spell ws) = ws := by
  induction ws with
  | nil => rfl
  | cons w ws ih =>
    have hread : words (spell ws) = ws := ih fun v hv => hws v (List.mem_of_mem_tail hv)
    rw [spell_cons, List.append_assoc, words_append_of_blank w.gap_blank
      (words_append_of_solid w.letters_solid w.letters_ne_nil (by
        rw [hread]
        exact fun v hv => hws v (List.mem_of_mem_take hv))), hread]
    simp [Word.behind]

/-! ## Trimmed texts -/

/-- Some words without the blanks in front of the first. -/
def front : List Word → List Word
  | [] => []
  | w :: ws => w.behind [] blank_of_mem_nil :: ws

/-- Words of which the first stands at the front are left as they are. -/
theorem front_of_gap {ws : List Word} (hws : ∀ w ∈ ws.head?, w.gap = []) : front ws = ws := by
  cases ws with
  | nil => rfl
  | cons w ws =>
    have hgap : w.gap = [] := hws w rfl
    cases w
    subst hgap
    rfl

/-- Where a text does not begin with a blank, its first word stands at the front. -/
theorem gap_of_head?_words {cs : List Char} (hcs : ∀ c ∈ cs.head?, isBlank c = false) :
    ∀ w ∈ (words cs).head?, w.gap = [] := by
  intro w hw
  cases cs with
  | nil => exact absurd hw (by simp [words])
  | cons c cs =>
    obtain ⟨v, vs, hwords, hgap⟩ := gap_words_of_not_blank (hcs c rfl) cs
    rw [hwords] at hw
    rwa [← Option.some.inj hw]

/-- Blanks behind the last word do not matter. -/
theorem words_trimEnd (cs : List Char) : words (trimEnd cs) = words cs := by
  rw [← spell_words, words_spell (spaced_tail_words cs)]

/-- Trimming a text takes only the blanks in front of its first word. -/
theorem words_trim (cs : List Char) : words (trim cs) = front (words cs) := by
  have hhead := gap_of_head?_words (not_blank_of_head?_trim (x := cs))
  rw [trim, words_trimEnd] at hhead ⊢
  have hsplit : cs.takeWhile isBlank ++ trimStart cs = cs := List.takeWhile_append_dropWhile
  have hblank : ∀ c ∈ cs.takeWhile isBlank, isBlank c = true := fun c hc =>
    List.mem_takeWhile_imp hc
  cases hwords : words (trimStart cs) with
  | nil =>
    have hnil : spell (words cs) = [] := by
      rw [spell_words, ← hsplit, trimEnd_append, ← spell_words (trimStart cs), hwords]
      exact trimEnd_eq_nil_iff.mpr hblank
    rw [spell_eq_nil_iff.mp hnil]
    rfl
  | cons w ws =>
    rw [hwords] at hhead
    have hwide := words_append_of_blank hblank hwords
    rw [hsplit] at hwide
    rw [hwide, ← front_of_gap hhead]
    rfl

/-- The words of a trimmed text spell it. -/
theorem spell_words_trim (cs : List Char) : spell (words (trim cs)) = trim cs := by
  rw [spell_words, trim, trimEnd_trimEnd]

end ChatArchive.Query
