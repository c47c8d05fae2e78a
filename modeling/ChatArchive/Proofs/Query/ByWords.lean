import ChatArchive.Proofs.Query.Remainder
import ChatArchive.Proofs.Query.Terms

/-!
# Queries read by words

A query that is read from a text is a matter of the words of that text (`ofText_by_words`): the
words that are tokens give the exclusions, and the mode is that of the other words, which stay as
they are and as they are spaced, with one space where tokens stood between them.
-/

namespace ChatArchive.Query

open ChatArchive.Text

/-- The words of a trimmed text. -/
def wordsOf (text : String) : List Word := words (trim text.toList)

/-- The text that some words spell. -/
def textOf (ws : List Word) : String := String.ofList (spell ws)

/-- The first word of a query stands at its front. -/
theorem isFlush_wordsOf (text : String) : IsFlush (wordsOf text) where
  head := gap_of_head?_words not_blank_of_head?_trim
  tail := spaced_tail_words (trim text.toList)

/-- The words of a query are those of its trimmed text. -/
theorem spell_wordsOf (text : String) : spell (wordsOf text) = trim text.toList :=
  spell_words_trim text.toList

/-- A query has no words exactly if it is blank. -/
theorem wordsOf_eq_nil_iff {text : String} : wordsOf text = [] ↔ trim text.toList = [] := by
  rw [← spell_wordsOf, spell_eq_nil_iff]

/-- Words that are kept apart are those of their text, but for what stands in front of them. -/
theorem wordsOf_textOf {ws : List Word} (hws : Spaced ws.tail) :
    wordsOf (textOf ws) = front ws := by
  rw [wordsOf, textOf, String.toList_ofList, words_trim, words_spell hws]

/-! ## Exclusions -/

/-- The terms between commas, in lowercase. -/
def listed (list : List Char) : List String :=
  ((list.splitOn ',').filter fun term => !term.isEmpty).map fun term =>
    String.ofList (lowercase term)

/-- Where there are no blanks none are trimmed. -/
theorem trim_solid {l : List Char} (hl : ∀ c ∈ l, isBlank c = false) : trim l = l := by
  cases l with
  | nil => rfl
  | cons c l => rw [trim, trimStart_cons_of_not_blank (hl c List.mem_cons_self), trimEnd_solid hl]

/-- There is nothing to trim in a list without blanks. -/
theorem terms_of_solid {t : Token} (ht : ∀ c ∈ t.list, isBlank c = false) :
    t.terms = listed t.list := by
  have htrim : ∀ piece ∈ splitBy (· == ',') t.list,
      String.ofList (lowercase (trim piece)) = String.ofList (lowercase piece) := by
    intro piece hpiece
    rw [trim_solid fun c hc => ht c (mem_of_mem_splitBy hpiece c hc).1]
  rw [Token.terms, List.map_congr_left htrim, splitBy_eq_splitOnP, List.filter_map]
  simp only [Function.comp_def, ofList_lowercase_bne]
  rfl

/-- There are no blanks in the list of a word. -/
theorem Word.solid_list (w : Word) : ∀ c ∈ w.list, isBlank c = false :=
  fun c hc => w.letters_solid c (List.mem_of_mem_drop hc)

/-- The tokens of a text list the terms of its words that are tokens. -/
theorem terms_tokens {ws : List Word} (hws : IsFlush ws) :
    (tokens true (spell ws)).1.flatMap Token.terms =
      (ws.filter Word.isToken).flatMap fun w => listed w.list := by
  have hlists := list_tokens_of_isFlush hws
  have hterms : ∀ t ∈ (tokens true (spell ws)).1, t.terms = listed t.list := by
    intro t ht
    have hmem : t.list ∈ (ws.filter Word.isToken).map Word.list := hlists ▸ List.mem_map_of_mem ht
    obtain ⟨w, -, hw⟩ := List.mem_map.mp hmem
    exact terms_of_solid (hw ▸ w.solid_list)
  calc (tokens true (spell ws)).1.flatMap Token.terms
      = (tokens true (spell ws)).1.flatMap (listed ·.list) := List.flatMap_congr hterms
    _ = ((tokens true (spell ws)).1.map Token.list).flatMap listed := (List.flatMap_map ..).symm
    _ = ((ws.filter Word.isToken).map Word.list).flatMap listed := by rw [hlists]
    _ = (ws.filter Word.isToken).flatMap (listed ·.list) := List.flatMap_map ..

/-- The exclusions are the terms of the tokens, each once. -/
theorem snd_extractExclusions (cs : List Char) :
    (extractExclusions cs).2 = dedup ((tokens true cs).1.flatMap Token.terms) := rfl

/-- The exclusions of a text, by its words. -/
theorem exclusions_ofText (text : String) : (ofText text).exclusions =
    (((wordsOf text).filter Word.isToken).flatMap (listed ·.list)).eraseDups := by
  rw [← terms_tokens (isFlush_wordsOf text), spell_wordsOf, ← dedup_eq_eraseDups,
    ← snd_extractExclusions]
  by_cases hblank : trim text.toList = []
  · rw [hblank, snd_extractExclusions, tokens_of_none rfl, ofText, hblank]
    rfl
  · simp [ofText, hblank]

/-! ## The mode -/

/-- Without tokens there is nothing to cut out. -/
theorem snd_tokens_of_fst_eq_nil {atStart : Bool} {cs : List Char}
    (h : (tokens atStart cs).1 = []) : (tokens atStart cs).2 = cs := by
  cases hfirst : firstToken? atStart cs with
  | none => rw [tokens_of_none hfirst]
  | some found =>
    rw [tokens_of_some hfirst] at h
    exact absurd h (List.cons_ne_nil _ _)

/-- A query without tokens is left as it is, and else the tokens are cut out. -/
theorem fst_extractExclusions (cs : List Char) : (extractExclusions cs).1 =
    if (extractExclusions cs).2.isEmpty && (tokens true cs).1.isEmpty then cs
    else withoutTokens (tokens true cs).1 (tokens true cs).2 := rfl

/-- The first of the words that remain stands at the front. -/
theorem isFlush_keptWords {ws : List Word} (hws : Spaced ws.tail) : IsFlush (keptWords ws) where
  head := by
    induction ws with
    | nil => exact fun w hw => absurd hw (by simp [keptWords])
    | cons w ws ih =>
      rw [keptWords]
      split_ifs
      · exact ih fun v hv => hws v (List.mem_of_mem_tail hv)
      · intro v hv
        obtain rfl := Option.some.inj hv
        rfl
  tail := spaced_tail_keptWords hws

/-- What is left of a text without its tokens are its other words. -/
theorem trim_extractExclusions {ws : List Word} (hws : IsFlush ws) :
    trim (extractExclusions (spell ws)).1 = spell (keptWords ws) := by
  have hkept := withoutTokens_of_isFlush hws
  rw [fst_extractExclusions]
  split_ifs with hnone
  · have htokens : (tokens true (spell ws)).1 = [] := by
      simpa using (Bool.and_eq_true_iff.mp hnone).2
    rw [htokens, snd_tokens_of_fst_eq_nil htokens] at hkept
    rw [← hkept]
    rfl
  · rw [hkept, trim_spell_of_isFlush (isFlush_keptWords hws.tail)]

/-- No word remains if and only if all are tokens. -/
theorem keptWords_eq_nil_iff {ws : List Word} : keptWords ws = [] ↔ ws.all Word.isToken = true := by
  rw [← List.map_eq_nil_iff (f := Word.letters), letters_keptWords, List.map_eq_nil_iff]
  simp [List.filter_eq_nil_iff]

/-- No token remains. -/
theorem isToken_of_mem_keptWords {ws : List Word} : ∀ w ∈ keptWords ws, w.isToken = false := by
  intro w hw
  have hletters : w.letters ∈ (ws.filter fun w => !w.isToken).map Word.letters :=
    letters_keptWords ws ▸ List.mem_map_of_mem hw
  obtain ⟨v, hv, heq⟩ := List.mem_map.mp hletters
  have hplain : v.isToken = false := by simpa using (List.mem_filter.mp hv).2
  rwa [Word.isToken, heq] at hplain

/-- The mode of a text, by its words. -/
theorem mode_ofText (text : String) : (ofText text).mode =
    if wordsOf text = [] then .none
    else if (wordsOf text).all Word.isToken then .all
    else modeOf (spell (keptWords (wordsOf text))) := by
  have hrest := trim_extractExclusions (isFlush_wordsOf text)
  rw [spell_wordsOf] at hrest
  rcases mode_ofText_cases text with ⟨hblank, hq⟩ | ⟨hne, hnil, hm⟩ | ⟨hne, hrestne, hm⟩
  · rw [if_pos (wordsOf_eq_nil_iff.mpr hblank), hq]
    rfl
  · rw [hrest, spell_eq_nil_iff, keptWords_eq_nil_iff] at hnil
    rw [if_neg (mt wordsOf_eq_nil_iff.mp hne), if_pos hnil, hm]
  · rw [hrest, Ne, spell_eq_nil_iff, keptWords_eq_nil_iff] at hrestne
    rw [if_neg (mt wordsOf_eq_nil_iff.mp hne), if_neg hrestne, hm, hrest]

/-! ## Queries by words -/

/-- Blanks in front of the first word do not matter for what remains. -/
theorem keptWords_front (ws : List Word) : keptWords (front ws) = keptWords ws := by
  cases ws with
  | nil => rfl
  | cons w ws => rfl

/-- The mode of words that are kept apart. -/
theorem mode_textOf {ws : List Word} (hws : Spaced ws.tail) : (ofText (textOf ws)).mode =
    if ws = [] then .none
    else if ws.all Word.isToken then .all
    else modeOf (spell (keptWords ws)) := by
  have hall : (front ws).all Word.isToken = ws.all Word.isToken := by
    cases ws <;> rfl
  have hnil : front ws = [] ↔ ws = [] := by
    cases ws <;> simp [front]
  rw [mode_ofText, wordsOf_textOf hws, keptWords_front, hall]
  simp only [hnil]

/-- A text without tokens remains as it is. -/
theorem spell_keptWords_of_plain {ws : List Word} (hws : IsFlush ws)
    (hplain : ∀ w ∈ ws, w.isToken = false) : spell (keptWords ws) = spell ws := by
  have hresume := resume_plain [] hplain
  rw [spell_eq_flush hws]
  exact hresume

/-- Without tokens the mode is that of the whole text. -/
theorem mode_textOf_of_plain {ws : List Word} (hws : IsFlush ws) (hne : ws ≠ [])
    (hplain : ∀ w ∈ ws, w.isToken = false) : (ofText (textOf ws)).mode = modeOf (spell ws) := by
  have hall : ¬ ws.all Word.isToken = true := by
    obtain ⟨w, rest, rfl⟩ := List.exists_cons_of_ne_nil hne
    simp [hplain w List.mem_cons_self]
  rw [mode_textOf hws.tail, if_neg hne, if_neg hall, spell_keptWords_of_plain hws hplain]

/-- Some words with one space in front of the first. -/
def respace : List Word → List Word
  | [] => []
  | w :: ws => w.behind [' '] blank_of_mem_space :: ws

/-- Behind a cut it does not matter what gap stood before the words. -/
theorem keptAfter_respace (cut : Bool) (ws : List Word) :
    keptAfter cut (respace ws) = keptAfter true ws := by
  cases ws with
  | nil => rfl
  | cons w ws =>
    rw [respace, keptAfter, keptAfter]
    cases cut <;> rfl

/-- A token leaves one space behind a word. -/
theorem keptAfter_append_token (cut : Bool) (before : List Word) {t : Word}
    (ht : t.isToken = true) (after : List Word) :
    keptAfter cut (before ++ t :: after) = keptAfter cut (before ++ respace after) := by
  induction before generalizing cut with
  | nil => rw [List.nil_append, List.nil_append, keptAfter_respace, keptAfter_token ht]
  | cons w before ih => simp only [List.cons_append, keptAfter, ih]

/-- A token leaves one space. -/
theorem keptWords_append_token (before : List Word) {t : Word} (ht : t.isToken = true)
    (after : List Word) :
    keptWords (before ++ t :: after) = keptWords (before ++ respace after) := by
  induction before with
  | nil =>
    rw [List.nil_append, List.nil_append, keptWords, if_pos ht]
    cases after <;> rfl
  | cons w before ih =>
    simp only [List.cons_append, keptWords, ih, keptAfter_append_token false before ht]

/-- Another gap makes no word a token, nor any token none. -/
theorem all_isToken_respace (ws : List Word) :
    (respace ws).all Word.isToken = ws.all Word.isToken := by
  cases ws <;> rfl

/-- Words stay apart where a token gives way to one space. -/
theorem spaced_append_respace {before after : List Word} {t : Word}
    (hws : Spaced (before ++ t :: after).tail) : Spaced (before ++ respace after).tail := by
  have hafter : Spaced after → Spaced (respace after) := by
    intro hspaced
    cases after with
    | nil => exact hspaced
    | cons w after =>
      exact List.forall_mem_cons.mpr ⟨List.cons_ne_nil _ _, hspaced.tail⟩
  cases before with
  | nil =>
    have hspaced := hafter hws
    exact fun w hw => hspaced w (List.mem_of_mem_tail hw)
  | cons v before =>
    have hspaced : Spaced (before ++ t :: after) := hws
    have hright := hafter fun w hw => hspaced w (by simp [hw])
    intro w hw
    rcases List.mem_append.mp hw with hw | hw
    · exact hspaced w (by simp [hw])
    · exact hright w hw

/-- A query is read by the words of its trimmed text.  Its exclusions are the terms that the tokens
list, each where it is listed first.  Its mode is that of the other words: they keep their letters
and the blanks between neighbours, have one space where tokens stood between them, and none of them
is a token.  A token may therefore be cut out of a text with other words, or be put there, and the
mode does not change. -/
theorem ofText_by_words (text : String) :
    (ofText text).exclusions =
      (((wordsOf text).filter Word.isToken).flatMap fun w => listed w.list).eraseDups ∧
    (trim text.toList ≠ [] → (ofText text).mode =
      if (wordsOf text).all Word.isToken then .all
      else (ofText (textOf (keptWords (wordsOf text)))).mode) ∧
    (keptWords (wordsOf text)).map Word.letters =
      ((wordsOf text).filter fun w => !w.isToken).map Word.letters ∧
    wordsOf (textOf (keptWords (wordsOf text))) = keptWords (wordsOf text) ∧
    (∀ w ∈ keptWords (wordsOf text), w.isToken = false) ∧
    ∀ before t after, wordsOf text = before ++ t :: after → t.isToken = true →
      before ++ after ≠ [] →
      (ofText text).mode = (ofText (textOf (before ++ respace after))).mode := by
  have hflush := isFlush_wordsOf text
  have hkept := isFlush_keptWords hflush.tail
  refine ⟨exclusions_ofText text, ?_, letters_keptWords _, ?_, isToken_of_mem_keptWords, ?_⟩
  · intro hne
    rw [mode_ofText, if_neg (mt wordsOf_eq_nil_iff.mp hne)]
    split_ifs with hall
    · rfl
    · exact (mode_textOf_of_plain hkept (mt keptWords_eq_nil_iff.mp hall)
        isToken_of_mem_keptWords).symm
  · rw [wordsOf_textOf hkept.tail, front_of_gap hkept.head]
  · intro before t after hwords ht hne
    have hspaced : Spaced (before ++ respace after).tail :=
      spaced_append_respace (hwords ▸ hflush.tail)
    have hrest : before ++ respace after ≠ [] := by
      cases after with
      | nil => exact hne
      | cons w after => simp [respace]
    rw [mode_ofText, mode_textOf hspaced, hwords, if_neg (by simp), if_neg hrest,
      keptWords_append_token before ht after]
    simp [ht, all_isToken_respace]

/-- Tokens between two words, one of them behind a blank of another script. -/
theorem ofText_with_tokens_between :
    (ofText "Foo \t bar  not:A,,b\u2003NOT:a baz").exclusions = ["a", "b"] ∧
    (ofText "Foo \t bar  not:A,,b\u2003NOT:a baz").mode = (ofText "Foo \t bar baz").mode ∧
    (ofText "Foo \t bar  not:A,,b\u2003NOT:a baz").mode =
      (ofText "Foo \t bar NOT:a baz").mode := by
  obtain ⟨hexclusions, hmode, -, -, -, hcut⟩ :=
    ofText_by_words "Foo \t bar  not:A,,b\u2003NOT:a baz"
  refine ⟨hexclusions.trans (by decide +kernel), (hmode (by decide +kernel)).trans ?_, ?_⟩
  · rw [if_neg (by decide +kernel)]
    exact congrArg (fun text => (ofText text).mode) (by decide +kernel)
  · exact hcut (words "Foo \t bar".toList)
      ⟨[' ', ' '], "not:A,,b".toList, List.all_eq_true.mp (by decide), solid_of_all (by decide),
        by decide⟩
      (words "\u2003NOT:a baz".toList) (by decide +kernel) (by decide +kernel) (by decide +kernel)

end ChatArchive.Query
