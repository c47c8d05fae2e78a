import ChatArchive.Proofs.Filter.Verdict
import ChatArchive.Proofs.Query.Exclusion
import ChatArchive.Proofs.Text.Sigma

/-!
# Searching for text that is there

A term is looked for in lowercase, and it gets its lowercase apart from the text in which it stands.
So a text that stands in another is found there, as a term or one of several, and excludes the other
as an excluded term, if its sigmas keep the form that they have in it alone (`accepts_standing`).
Where a sigma changes its form the text may not be found, although it is there
(`standing_text_is_missed`).
-/

namespace ChatArchive.Query

open ChatArchive.Text

/-! ## What is looked for -/

/-- A text without its tokens, from which the mode is read. -/
def remainder (text : String) : List Char := spell (keptWords (wordsOf text))

/-- A text without tokens is read as a whole. -/
theorem remainder_of_plain {text : String} (hplain : ∀ w ∈ wordsOf text, w.isToken = false) :
    remainder text = trim text.toList :=
  (spell_keptWords_of_plain (isFlush_wordsOf text) hplain).trans (spell_wordsOf text)

/-- A mode that looks for something is that of the text without its tokens. -/
theorem mode_ofText_of_located {text : String} (h : (ofText text).mode.IsLocated) :
    (ofText text).mode = modeOf (remainder text) := by
  have hmode := mode_ofText text
  split_ifs at hmode
  · rw [hmode] at h
    exact h.elim
  · rw [hmode] at h
    exact h.elim
  · exact hmode

/-- A single term is all of the text that is left. -/
theorem term_of_contains {text term : String} (h : (ofText text).mode = .contains term) :
    term = String.ofList (lowercase (remainder text)) := by
  rw [mode_ofText_of_located (by rw [h]; trivial)] at h
  rcases modeOf_cases (remainder text) with
    ⟨_, -, -, hm⟩ | ⟨-, _, _, -, -, hm⟩ | ⟨-, -, -, hm⟩ | ⟨-, -, -, hm⟩ <;> rw [hm] at h
  · cases h
  · cases h
  · cases h
  · exact (Mode.contains.inj h).symm

/-- Several terms are the pieces between bars. -/
theorem terms_of_any {text : String} {terms : List String} (h : (ofText text).mode = .any terms) :
    terms = alternatives (remainder text) := by
  rw [mode_ofText_of_located (by rw [h]; trivial)] at h
  rcases modeOf_cases (remainder text) with
    ⟨_, -, -, hm⟩ | ⟨-, _, _, -, -, hm⟩ | ⟨-, -, -, hm⟩ | ⟨-, -, -, hm⟩ <;> rw [hm] at h
  · cases h
  · cases h
  · exact (Mode.any.inj h).symm
  · cases h

/-- The terms between bars, without a look at their lowercase. -/
theorem alternatives_eq (cs : List Char) : alternatives cs =
    (((splitBy (· == '|') cs).map trim).filter fun piece => !piece.isEmpty).map fun piece =>
      String.ofList (lowercase piece) := by
  rw [alternatives, List.filter_map, List.filter_map, List.map_map]
  simp only [Function.comp_def, ofList_lowercase_bne]

/-- A piece between bars that is not blank is an alternative, trimmed and in lowercase. -/
theorem mem_alternatives_of_mem_splitBy {cs piece : List Char}
    (h : piece ∈ splitBy (· == '|') cs) (hne : trim piece ≠ []) :
    String.ofList (lowercase (trim piece)) ∈ alternatives cs := by
  rw [alternatives_eq]
  refine List.mem_map_of_mem (List.mem_filter.mpr ⟨List.mem_map_of_mem h, ?_⟩)
  simpa using hne

/-! ## Text that is there -/

/-- A query without exclusions excludes nothing. -/
theorem not_excludes_of_no_exclusions {q : Query} (h : q.exclusions = []) (t : String) :
    ¬ q.Excludes t := by
  rintro ⟨term, hterm, -⟩
  rw [h] at hterm
  exact absurd hterm List.not_mem_nil

/-- A query without exclusions accepts a text in which its mode holds. -/
theorem accepts_of_holds {q : Query} {t : String} (hexclusions : q.exclusions = [])
    (hmode : q.mode.Holds t) : q.accepts (.ofString t) = true :=
  (accepts_iff q (.ofString t)).mpr ⟨not_excludes_of_no_exclusions hexclusions t, hmode⟩

/-- What stands in a text is found there if its sigmas keep their form, blanks around it apart. -/
theorem lowercase_trim_infix {t before s after : List Char} (ht : t = before ++ s ++ after)
    (hkeep : KeepsSigmas before s after) : lowercase (trim s) <:+: lowercase t := by
  obtain ⟨before', after', hsplit, hkeep⟩ := hkeep.exists_trim
  rw [ht, hsplit]
  exact hkeep.infix

/-- What stands in a text is found there, if every sigma of it ends a word in the text exactly if it
does so without it: by a query for it, by one that has it between bars, and it excludes the text
where a token lists it.  A query for it may have tokens that list nothing, which are not looked for.

The lowercase of `s` stands at its place in that of `t` just in this case.  It is the case wherever
`s` stands if no sigma is at its ends, and whatever it is if it stands between separators. -/
theorem accepts_standing {t : String} {before s after : List Char}
    (ht : t.toList = before ++ s ++ after) :
    (KeepsSigmas before s after →
      (∀ q term, (ofText q).mode = .contains term → (ofText q).exclusions = [] →
        remainder q = trim s → (ofText q).accepts (.ofString t) = true) ∧
      (∀ q terms, (ofText q).mode = .any terms → (ofText q).exclusions = [] →
        (∃ piece ∈ splitBy (· == '|') (remainder q), trim piece = trim s) → trim s ≠ [] →
        (ofText q).accepts (.ofString t) = true) ∧
      (∀ q, (∃ w ∈ wordsOf q, w.isToken = true ∧ s ∈ splitBy (· == ',') w.list) → s ≠ [] →
        (ofText q).accepts (.ofString t) = false)) ∧
    (∀ q, (∀ w ∈ wordsOf q, w.isToken = false) → remainder q = trim q.toList) ∧
    (KeepsSigmas before s after ↔
      lowercase s <+: (lowercase t.toList).drop (lowercase before).length) ∧
    ((∀ u v, s = u ++ 'Σ' :: v →
        (∃ c ∈ u, caseIgnorableSet.contains c = false) ∧
          ∃ c ∈ v, caseIgnorableSet.contains c = false) →
      KeepsSigmas before s after) ∧
    (Stops before.reverse → Stops after → KeepsSigmas before s after) := by
  refine ⟨fun hkeep => ⟨?_, ?_, ?_⟩, fun q => remainder_of_plain, ?_,
    fun hinner => keepsSigmas_of_inner hinner before after,
    fun hbefore hafter => keepsSigmas_of_stops hbefore hafter s⟩
  · intro q term hmode hexclusions hrest
    refine accepts_of_holds hexclusions ?_
    rw [hmode, term_of_contains hmode, Mode.Holds, String.toList_ofList, hrest]
    exact lowercase_trim_infix ht hkeep
  · rintro q terms hmode hexclusions ⟨piece, hpiece, htrim⟩ hne
    refine accepts_of_holds hexclusions ?_
    have hterm := mem_alternatives_of_mem_splitBy hpiece (htrim ▸ hne)
    rw [hmode, terms_of_any hmode]
    refine ⟨_, hterm, ?_⟩
    rw [String.toList_ofList, htrim]
    exact lowercase_trim_infix ht hkeep
  · rintro q ⟨w, hw, htoken, hs⟩ hne
    have hexcludes : (ofText q).Excludes t := by
      refine ⟨String.ofList (lowercase s), ?_, ?_⟩
      · exact mem_exclusions_iff.mpr ⟨w, hw, htoken, mem_listed_iff.mpr ⟨s, hs, hne, rfl⟩⟩
      · rw [String.toList_ofList, ht]
        exact hkeep.infix
    rw [← Bool.not_eq_true, accepts_iff]
    exact fun hmatches => hmatches.1 hexcludes
  · rw [ht]
    exact (prefix_drop_lowercase_iff before s after).symm

/-- A text without bars and of no other form is one term. -/
theorem mode_eq_contains {text : String} (hne : wordsOf text ≠ [])
    (hplain : ∀ w ∈ wordsOf text, w.isToken = false) (hid : idMode? (trim text.toList) = none)
    (hslashed : slashed? (trim text.toList) = none) (hbar : '|' ∉ trim text.toList) :
    (ofText text).mode = .contains (String.ofList (lowercase (trim text.toList))) := by
  have hall : ¬ (wordsOf text).all Word.isToken = true := by
    obtain ⟨w, ws, hws⟩ := List.exists_cons_of_ne_nil hne
    rw [hws] at hplain ⊢
    simp [hplain w List.mem_cons_self]
  have hpiece : ∀ c ∈ trim text.toList, (c == '|') = false := by
    intro c hc
    exact beq_eq_false_iff_ne.mpr fun hc' => hbar (hc' ▸ hc)
  have hany : anyMode? (trim text.toList) = none := by
    rw [anyMode?, alternatives_eq, splitBy_of_forall hpiece]
    simp only [List.length_map]
    refine if_neg fun hlen => ?_
    have hle := List.length_filter_le (fun piece : List Char => !piece.isEmpty)
      ([trim text.toList].map trim)
    simp at hle hlen
    omega
  rw [mode_ofText, if_neg hne, if_neg hall, ← remainder, remainder_of_plain hplain, modeOf, hid,
    patternMode?, hslashed, hany]
  rfl

/-- Words between blanks, of which one is looked for. -/
theorem accepts_standing_of_word :
    "Via ΟΔΟΣ, Rhodes".toList = "Via ".toList ++ "ΟΔΟΣ".toList ++ ", Rhodes".toList ∧
    (ofText " ΟΔΟΣ ").accepts (.ofString "Via ΟΔΟΣ, Rhodes") = true ∧
    (ofText "ΟΔΟΣ not:x,ΟΔΟΣ").accepts (.ofString "Via ΟΔΟΣ, Rhodes") = false := by
  have ht : "Via ΟΔΟΣ, Rhodes".toList = "Via ".toList ++ "ΟΔΟΣ".toList ++ ", Rhodes".toList := by
    decide +kernel
  obtain ⟨hfound, hrest, -, -, hstops⟩ := accepts_standing ht
  have hblank : Stops "Via ".toList.reverse := by
    intro c hc
    obtain rfl : ' ' = c := by simpa using hc
    exact .inr (by decide)
  have hcomma : Stops ", Rhodes".toList := by
    intro c hc
    obtain rfl : ',' = c := by simpa using hc
    exact .inl rfl
  obtain ⟨hterm, -, hexcluded⟩ := hfound (hstops hblank hcomma)
  have hplain : ∀ w ∈ wordsOf " ΟΔΟΣ ", w.isToken = false := by decide +kernel
  refine ⟨ht, ?_, ?_⟩
  · refine hterm " ΟΔΟΣ " _ (mode_eq_contains (by decide +kernel) hplain (by decide +kernel)
      (by decide +kernel) (by decide +kernel)) ?_ ?_
    · rw [exclusions_ofText]
      decide +kernel
    · rw [hrest " ΟΔΟΣ " hplain]
      decide +kernel
  · exact hexcluded "ΟΔΟΣ not:x,ΟΔΟΣ" (by decide +kernel) (by decide +kernel)

/-- The lowercase of a word that is one of two words at once. -/
theorem lowercase_of_sigma :
    lowercase "ΟΔΟΣ".toList = "οδος".toList ∧
      lowercase "ΟΔΟΣΗΜΑ".toList = "οδοσημα".toList := by
  have hbefore : reachesCased ['Ο', 'Δ', 'Ο'] = true :=
    reachesCased_of_greekCapital ⟨(0x391, 0x3A1), by decide, by decide⟩ _
  have hafter : reachesCased ['Η', 'Μ', 'Α'] = true :=
    reachesCased_of_greekCapital ⟨(0x391, 0x3A1), by decide, by decide⟩ _
  have hfinal : lowerIn ['Ο', 'Δ', 'Ο'] 'Σ' [] = ['ς'] := by
    rw [lowerIn, if_pos rfl, isWordFinal, hbefore]
    rfl
  have hinner : lowerIn ['Ο', 'Δ', 'Ο'] 'Σ' ['Η', 'Μ', 'Α'] = ['σ'] := by
    rw [lowerIn, if_pos rfl, isWordFinal, hbefore, hafter]
    rfl
  have hsplit (after : List Char) : lowercase (['Ο', 'Δ', 'Ο'] ++ 'Σ' :: after) =
      ['ο', 'δ', 'ο'] ++ (lowerIn ['Ο', 'Δ', 'Ο'] 'Σ' after ++
        lowercaseFrom ['Σ', 'Ο', 'Δ', 'Ο'] [] after) := by
    have homicron : lowerChar 'Ο' = ['ο'] := by decide +kernel
    have hdelta : lowerChar 'Δ' = ['δ'] := by decide +kernel
    rw [lowercase, lowercaseFrom_append, lowercaseFrom_cons]
    simp [lowercaseWithin, lowerIn, homicron, hdelta]
  constructor
  · have hword := hsplit []
    rw [hfinal] at hword
    exact hword.trans (by decide +kernel)
  · have hword := hsplit ['Η', 'Μ', 'Α']
    rw [hinner] at hword
    exact hword.trans (by decide +kernel)

/-- A text that stands in another need not be found there: a sigma at its end ends a word of the
term, and stands inside a word of the text. -/
theorem standing_text_is_missed :
    ¬∀ (s t term : String), (ofText s).mode = .contains term → (ofText s).exclusions = [] →
      s.toList <:+: t.toList → (ofText s).accepts (.ofString t) = true := by
  intro hfound
  have hmode : (ofText "ΟΔΟΣ").mode =
      .contains (String.ofList (lowercase (trim "ΟΔΟΣ".toList))) :=
    mode_eq_contains (by decide +kernel) (by decide +kernel) (by decide +kernel)
      (by decide +kernel) (by decide +kernel)
  have hexclusions : (ofText "ΟΔΟΣ").exclusions = [] := by
    rw [exclusions_ofText]
    decide +kernel
  have haccepts := hfound "ΟΔΟΣ" "ΟΔΟΣΗΜΑ" _ hmode hexclusions
    ⟨[], "ΗΜΑ".toList, by decide +kernel⟩
  have hholds := ((accepts_iff _ _).mp haccepts).2
  have htrim : trim "ΟΔΟΣ".toList = "ΟΔΟΣ".toList := by decide +kernel
  rw [hmode, Mode.Holds, String.toList_ofList, htrim, SearchText.ofString, lowercase_of_sigma.1,
    lowercase_of_sigma.2] at hholds
  exact absurd hholds (by decide +kernel)

end ChatArchive.Query
