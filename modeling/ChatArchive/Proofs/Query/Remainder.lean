import ChatArchive.Proofs.Query.Tokens
import ChatArchive.Proofs.Text.Lowercase

/-!
# Words that remain

Tokens are cut out of a text at the blanks before and after them, with a space put in where text
was kept on both sides.  What this leaves is the text of the words that are no tokens
(`withoutTokens_of_isFlush`): they keep their letters and the blanks between neighbours, and have
one space where tokens stood between them.
-/

namespace ChatArchive.Query

open ChatArchive.Text

/-! ## The words that remain -/

/-- The words behind one that remains.  `cut` says whether tokens stood in between. -/
def keptAfter (cut : Bool) : List Word → List Word
  | [] => []
  | w :: ws =>
    if w.isToken then keptAfter true ws
    else (if cut then w.behind [' '] blank_of_mem_space else w) :: keptAfter false ws

/-- The words that are no tokens.  Words that stood side by side stay spaced as they are, and one
space takes the place of tokens between them. -/
def keptWords : List Word → List Word
  | [] => []
  | w :: ws =>
    if w.isToken then keptWords ws else w.behind [] blank_of_mem_nil :: keptAfter false ws

/-- Words that are no tokens remain as they are behind one that remains. -/
theorem keptAfter_false_append {before : List Word} (hbefore : ∀ w ∈ before, w.isToken = false)
    (ws : List Word) : keptAfter false (before ++ ws) = before ++ keptAfter false ws := by
  induction before with
  | nil => rfl
  | cons w before ih =>
    obtain ⟨hw, hbefore⟩ := List.forall_mem_cons.mp hbefore
    rw [List.cons_append, keptAfter, hw, ih hbefore]
    rfl

/-- A token is left out, and the gap behind it becomes one space. -/
theorem keptAfter_token {t : Word} (ht : t.isToken = true) (cut : Bool) (ws : List Word) :
    keptAfter cut (t :: ws) = keptAfter true ws := if_pos ht

/-- The words that remain behind another one have gaps in front of them. -/
theorem spaced_keptAfter {ws : List Word} (hws : Spaced ws) (cut : Bool) :
    Spaced (keptAfter cut ws) := by
  induction ws generalizing cut with
  | nil => exact hws
  | cons w ws ih =>
    rw [keptAfter]
    split_ifs
    · exact ih hws.tail true
    · exact List.forall_mem_cons.mpr ⟨List.cons_ne_nil _ _, ih hws.tail false⟩
    · exact List.forall_mem_cons.mpr ⟨hws w List.mem_cons_self, ih hws.tail false⟩

/-- All that remain but the first have gaps in front of them. -/
theorem spaced_tail_keptWords {ws : List Word} (hws : Spaced ws.tail) :
    Spaced (keptWords ws).tail := by
  induction ws with
  | nil => exact hws
  | cons w ws ih =>
    rw [keptWords]
    split_ifs
    · exact ih fun v hv => hws v (List.mem_of_mem_tail hv)
    · exact spaced_keptAfter hws false

/-- The letters of the words that remain are those of the words that are no tokens. -/
theorem letters_keptAfter (cut : Bool) (ws : List Word) :
    (keptAfter cut ws).map Word.letters = (ws.filter fun w => !w.isToken).map Word.letters := by
  induction ws generalizing cut with
  | nil => rfl
  | cons w ws ih =>
    rw [keptAfter]
    split_ifs with hw hcut
    · rw [ih, List.filter_cons_of_neg (by simp [hw])]
    · rw [List.map_cons, ih, List.filter_cons_of_pos (by simp [hw])]
      rfl
    · rw [List.map_cons, ih, List.filter_cons_of_pos (by simp [hw])]
      rfl

/-- The letters of the words that remain are not changed. -/
theorem letters_keptWords (ws : List Word) :
    (keptWords ws).map Word.letters = (ws.filter fun w => !w.isToken).map Word.letters := by
  induction ws with
  | nil => rfl
  | cons w ws ih =>
    rw [keptWords]
    split_ifs with hw
    · rw [ih, List.filter_cons_of_neg (by simp [hw])]
    · rw [List.map_cons, letters_keptAfter, List.filter_cons_of_pos (by simp [hw])]
      rfl

/-! ## Cutting tokens out -/

/-- A token is cut out with one of the blanks in front of it; the others are kept for now. -/
theorem Word.blank_of_mem_dropLast (t : Word) : ∀ c ∈ t.gap.dropLast, isBlank c = true :=
  fun c hc => t.gap_blank c ((List.dropLast_sublist t.gap).subset hc)

/-- The text of some words without the blanks in front of it. -/
def flush : List Word → List Char
  | [] => []
  | w :: ws => w.letters ++ spell ws

/-- Two pieces with one space between them, if both are there. -/
def joined (x y : List Char) : List Char :=
  if x = [] then y else if y = [] then x else x ++ ' ' :: y

/-- Kept text with the space behind it. -/
def withSpace (x : List Char) : List Char := if x = [] then [] else x ++ [' ']

/-- Where there are no blanks none are trimmed at the end. -/
theorem trimEnd_solid {l : List Char} (hl : ∀ c ∈ l, isBlank c = false) : trimEnd l = l := by
  refine List.rdropWhile_eq_self_iff.mpr fun hne => ?_
  rw [hl _ (List.getLast_mem hne)]
  exact Bool.false_ne_true

/-- Letters before a trimmed text are trimmed. -/
theorem trimEnd_letters_append (w : Word) {x : List Char} (hx : trimEnd x = x) :
    trimEnd (w.letters ++ x) = w.letters ++ x := by
  by_cases hnil : x = []
  · rw [hnil, List.append_nil, trimEnd_solid w.letters_solid]
  · exact trimEnd_append_of_trimmed _ hnil hx

/-- There are no blanks behind the last of some words. -/
theorem trimEnd_spell (ws : List Word) : trimEnd (spell ws) = spell ws := by
  induction ws with
  | nil => rfl
  | cons w ws ih =>
    have hne : w.letters ++ spell ws ≠ [] := by simp [w.letters_ne_nil]
    rw [spell_cons, List.append_assoc,
      trimEnd_append_of_trimmed _ hne (trimEnd_letters_append w ih)]

/-- Nor are there if the first stands at the front. -/
theorem trimEnd_flush (ws : List Word) : trimEnd (flush ws) = flush ws := by
  cases ws with
  | nil => rfl
  | cons w ws => exact trimEnd_letters_append w (trimEnd_spell ws)

/-- A word has a letter at least. -/
theorem flush_ne_nil (w : Word) (ws : List Word) : flush (w :: ws) ≠ [] := by
  simp [flush, w.letters_ne_nil]

/-- Trimming the text of some words leaves it without the blanks in front. -/
theorem trim_spell_append (ws : List Word) {g : List Char} (hg : ∀ c ∈ g, isBlank c = true) :
    trim (spell ws ++ g) = flush ws := by
  cases ws with
  | nil =>
    have hnil : trimStart g = [] := List.dropWhile_eq_nil_iff.mpr hg
    rw [spell_nil, List.nil_append, trim, hnil]
    rfl
  | cons w ws =>
    obtain ⟨c, l, hl⟩ := List.exists_cons_of_ne_nil w.letters_ne_nil
    have hc : isBlank c = false := w.letters_solid c (hl ▸ List.mem_cons_self)
    have hstart : trimStart (w.letters ++ (spell ws ++ g)) = w.letters ++ (spell ws ++ g) := by
      rw [hl, List.cons_append, trimStart_cons_of_not_blank hc]
    rw [trim, spell_cons, List.append_assoc, List.append_assoc, trimStart_append w.gap_blank,
      hstart, ← List.append_assoc, trimEnd_append_of_blank _ hg]
    exact trimEnd_flush (w :: ws)

/-- Trimmed pieces are trimmed when they are joined. -/
theorem trimEnd_joined {x y : List Char} (hx : trimEnd x = x) (hy : trimEnd y = y) :
    trimEnd (joined x y) = joined x y := by
  unfold joined
  split_ifs with hxnil hynil
  · exact hy
  · exact hx
  · rw [← List.singleton_append, ← List.append_assoc, trimEnd_append_of_trimmed _ hynil hy]

/-- A trimmed text does not end in a space. -/
theorem getLast?_ne_space {x : List Char} (hx : trimEnd x = x) : x.getLast? ≠ some ' ' := by
  intro hlast
  obtain ⟨start, rfl⟩ := List.getLast?_eq_some_iff.mp hlast
  have hblank : isBlank ' ' = true := by decide
  have hdropped : trimEnd (start ++ [' ']) = trimEnd start :=
    List.rdropWhile_concat_pos _ _ _ hblank
  have hle : (trimEnd start).length ≤ start.length :=
    (List.rdropWhile_prefix isBlank start).length_le
  rw [← hdropped, hx, List.length_append, List.length_singleton] at hle
  omega

/-- A piece is put behind the text that was kept, with one space between them. -/
theorem keepPiece_withSpace (x piece : List Char) :
    keepPiece (withSpace x) piece = withSpace (joined x (trimEnd piece)) := by
  have hlast := getLast?_ne_space (trimEnd_trimEnd piece)
  unfold keepPiece withSpace joined
  by_cases hpiece : trimEnd piece = []
  · by_cases hx : x = [] <;> simp [hx, hpiece]
  · have hbehind : (x ++ [' '] ++ trimEnd piece).getLast? ≠ some ' ' := by
      rwa [List.getLast?_append_of_ne_nil _ hpiece]
    by_cases hx : x = []
    · simp [hx, hpiece, hlast]
    · simp only [if_neg hx, if_neg hpiece]
      rw [if_neg (by simpa using hbehind), if_neg (by simp)]
      simp

/-- The text behind the last token is put behind what was kept. -/
theorem trimEnd_withSpace_append {x : List Char} (hx : trimEnd x = x) (tail : List Char) :
    trimEnd (withSpace x ++ trimStart tail) = joined x (trim tail) := by
  unfold withSpace joined trim
  by_cases hnil : x = []
  · simp [hnil]
  · have hspace : trimEnd (x ++ [' ']) = x := by
      rw [trimEnd_append_of_blank x blank_of_mem_space, hx]
    rw [if_neg hnil, if_neg hnil, trimEnd_append, hspace]
    simp

/-- What is kept of some words behind text that was kept already. -/
def resume (x : List Char) (ws : List Word) : List Char :=
  if x = [] then spell (keptWords ws) else x ++ spell (keptAfter true ws)

/-- Words without a token are joined to what was kept. -/
theorem resume_plain {ws : List Word} (x : List Char) (hws : ∀ w ∈ ws, w.isToken = false) :
    resume x ws = joined x (flush ws) := by
  cases ws with
  | nil => simp [resume, joined, flush, keptWords, keptAfter]
  | cons w ws =>
    obtain ⟨hw, hws⟩ := List.forall_mem_cons.mp hws
    have hrest := keptAfter_false_append hws []
    rw [List.append_nil] at hrest
    simp only [resume, joined, if_neg (flush_ne_nil w ws), keptWords, keptAfter, hw, hrest]
    simp [flush, Word.behind]

/-- Words before a token are joined to what was kept, and the rest goes on from there. -/
theorem resume_token {before rest : List Word} {t : Word} (x : List Char)
    (hbefore : ∀ w ∈ before, w.isToken = false) (ht : t.isToken = true) :
    resume x (before ++ t :: rest) = resume (joined x (flush before)) rest := by
  cases before with
  | nil => by_cases hx : x = [] <;> simp [resume, joined, flush, keptWords, keptAfter, ht, hx]
  | cons w before =>
    obtain ⟨hw, hbefore⟩ := List.forall_mem_cons.mp hbefore
    have hrest := keptAfter_false_append hbefore (t :: rest)
    rw [keptAfter_token ht] at hrest
    have hne : joined x (flush (w :: before)) ≠ [] := by
      unfold joined
      split_ifs <;> simp_all [flush_ne_nil]
    rw [resume, resume, if_neg hne]
    simp only [joined, if_neg (flush_ne_nil w before), List.cons_append, keptWords, keptAfter, hw,
      hrest]
    by_cases hx : x = [] <;> simp [hx, flush, Word.behind]

/-- A search in words, with the cutting of what it finds, comes to the words that remain. -/
theorem strip_spell {ws : List Word} (hws : Spaced ws) {x : List Char} (hx : trimEnd x = x) :
    trimEnd ((tokens false (spell ws)).1.foldl
        (fun kept t => keepPiece kept (trimStart t.before)) (withSpace x) ++
      trimStart (tokens false (spell ws)).2) = resume x ws := by
  induction ws using tokenCases generalizing x with
  | plain ws hplain =>
    have htrim : trim (spell ws) = flush ws := by
      simpa using trim_spell_append ws (g := []) (by simp)
    rw [tokens_of_none (firstToken?_spell_of_plain hws hplain), List.foldl_nil,
      trimEnd_withSpace_append hx, htrim, resume_plain x hplain]
  | cut before t rest hbefore ht ih =>
    have hrest : Spaced rest := fun w hw => hws w (by simp [hw])
    have hpiece : trimEnd (trimStart (spell before ++ t.gap.dropLast)) = flush before :=
      trim_spell_append before t.blank_of_mem_dropLast
    rw [tokens_of_some (firstToken?_spell_of_token hws hbefore ht), List.foldl_cons,
      keepPiece_withSpace, hpiece, ih hrest (trimEnd_joined hx (trimEnd_flush before)),
      resume_token x hbefore ht]

/-! ## Whole texts -/

/-- At the start of a text a token may also stand without a blank in front of it. -/
theorem firstToken?_start (w : Word) {cs : List Char} (hcs : EndsWord cs) :
    firstToken? true (w.letters ++ cs) =
      if w.isToken then some (⟨[], w.list⟩, cs)
      else (firstToken? false cs).map (foundBehind w.letters) := by
  have hahead := listAhead?_word w hcs
  have hsolid := firstToken?_solid w.letters_solid cs
  obtain ⟨c, l, hl⟩ := List.exists_cons_of_ne_nil w.letters_ne_nil
  have hc : isBlank c = false := w.letters_solid c (hl ▸ List.mem_cons_self)
  split_ifs at hahead ⊢ with hw
  · rw [hl, List.cons_append] at hahead ⊢
    simp [firstToken?, hahead]
  · rw [← hsolid]
    rw [hl, List.cons_append] at hahead ⊢
    rw [firstToken?_cons (fun _ => hahead) (by simp [hc]),
      firstToken?_cons (by simp) (by simp [hc])]

/-- The text of words of which the first stands at the front. -/
structure IsFlush (ws : List Word) : Prop where
  head : ∀ w ∈ ws.head?, w.gap = []
  tail : Spaced ws.tail

/-- Where the first word stands at the front there are no blanks before it. -/
theorem spell_eq_flush {ws : List Word} (hws : IsFlush ws) : spell ws = flush ws := by
  cases ws with
  | nil => rfl
  | cons w ws => simp [flush, hws.head w rfl]

/-- The tokens of a text have the lists of its words that are tokens. -/
theorem list_tokens_of_isFlush {ws : List Word} (hws : IsFlush ws) :
    (tokens true (spell ws)).1.map Token.list = (ws.filter Word.isToken).map Word.list := by
  cases ws with
  | nil =>
    rw [spell_nil, tokens_of_none rfl]
    rfl
  | cons w ws =>
    have hspaced : Spaced ws := hws.tail
    have hfirst := firstToken?_start w (endsWord_spell hspaced)
    have hlists := list_tokens_spell hspaced
    rw [spell_eq_flush hws, flush]
    cases hw : w.isToken with
    | true =>
      rw [hw, if_pos rfl] at hfirst
      rw [tokens_of_some hfirst, List.map_cons, hlists, List.filter_cons_of_pos hw, List.map_cons]
    | false =>
      rw [hw, if_neg (by simp)] at hfirst
      rw [List.filter_cons_of_neg (by simp [hw]), ← hlists]
      cases hrest : firstToken? false (spell ws) with
      | none =>
        rw [hrest] at hfirst
        rw [tokens_of_none hfirst, tokens_of_none hrest]
      | some found =>
        rw [hrest] at hfirst
        rw [tokens_of_some hfirst, tokens_of_some hrest]
        rfl

/-- The text of such words is trimmed. -/
theorem trim_spell_of_isFlush {ws : List Word} (hws : IsFlush ws) : trim (spell ws) = spell ws := by
  have htrim := trim_spell_append ws (g := []) (by simp)
  rw [List.append_nil] at htrim
  rw [htrim, spell_eq_flush hws]

/-- Without its tokens a text is that of its other words. -/
theorem withoutTokens_of_isFlush {ws : List Word} (hws : IsFlush ws) :
    withoutTokens (tokens true (spell ws)).1 (tokens true (spell ws)).2 =
      spell (keptWords ws) := by
  cases ws with
  | nil =>
    rw [spell_nil, tokens_of_none rfl]
    rfl
  | cons w ws =>
    have hspaced : Spaced ws := hws.tail
    have hspell : spell (w :: ws) = w.letters ++ spell ws := spell_eq_flush hws
    have hfirst := firstToken?_start w (endsWord_spell hspaced)
    rw [← hspell] at hfirst
    cases hw : w.isToken with
    | true =>
      rw [hw, if_pos rfl] at hfirst
      rw [tokens_of_some hfirst, keptWords, if_pos hw]
      exact strip_spell hspaced (x := []) rfl
    | false =>
      rw [hw, if_neg (by simp)] at hfirst
      have hkept : spell (keptWords (w :: ws)) = resume [] (w :: ws) := rfl
      rw [hkept]
      induction ws using tokenCases with
      | plain ws hplain =>
        rw [firstToken?_spell_of_plain hspaced hplain] at hfirst
        rw [tokens_of_none hfirst, resume_plain [] (List.forall_mem_cons.mpr ⟨hw, hplain⟩)]
        exact (trim_spell_of_isFlush hws).trans (spell_eq_flush hws)
      | cut before t rest hbefore ht _ =>
        have hrest : Spaced rest := fun v hv => hspaced v (by simp [hv])
        have hpiece : trimEnd (w.letters ++ (spell before ++ t.gap.dropLast)) =
            flush (w :: before) := by
          rw [← List.append_assoc, trimEnd_append_of_blank _ t.blank_of_mem_dropLast]
          exact trimEnd_flush (w :: before)
        rw [firstToken?_spell_of_token hspaced hbefore ht] at hfirst
        have hjoined : resume [] (w :: (before ++ t :: rest)) =
            resume (joined [] (flush (w :: before))) rest :=
          resume_token [] (List.forall_mem_cons.mpr ⟨hw, hbefore⟩) ht
        rw [tokens_of_some hfirst, hjoined, ← strip_spell hrest (trimEnd_joined rfl
          (trimEnd_flush (w :: before))), ← hpiece, ← keepPiece_withSpace]
        rfl

end ChatArchive.Query
