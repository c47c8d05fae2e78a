import ChatArchive.Proofs.Query.Snippet
import ChatArchive.Query.Reader

/-!
# The terms of queries that were read

`modeOf_cases` says once which mode a text without tokens selects, and `mode_ofText_cases` where
that text comes from.  From these: a query that was read never looks for the empty term
(`term_ne_empty_of_ofText`).
-/

namespace ChatArchive.Query

open ChatArchive.Text
open ChatArchive.Pattern (Matcher)

/-! ## Modes -/

/-- The form of a list of identifiers holds unless the list is empty. -/
theorem idMode?_eq_some {cs : List Char} {m : Mode} (h : idMode? cs = some m) :
    ∃ list, idList? cs = some list ∧ splitIds list ≠ [] ∧ m = .ids (splitIds list) := by
  simp only [idMode?, Option.bind_eq_bind, Option.bind_eq_some_iff] at h
  obtain ⟨list, hlist, h⟩ := h
  split_ifs at h with hempty
  exact ⟨list, hlist, by simpa using hempty, (Option.some.inj h).symm⟩

/-- A pattern is looked for only if it stands between slashes and can be compiled. -/
theorem patternMode?_eq_some {cs : List Char} {m : Mode} (h : patternMode? cs = some m) :
    ∃ inner p, slashed? cs = some inner ∧ Matcher.ofText? (String.ofList inner) = some p ∧
      m = .pattern p := by
  simp only [patternMode?, Option.bind_eq_bind, Option.bind_eq_some_iff] at h
  obtain ⟨inner, hinner, p, hp, h⟩ := h
  exact ⟨inner, p, hinner, hp, (Option.some.inj h).symm⟩

/-- Alternatives are looked for only if there are two at least. -/
theorem anyMode?_eq_some {cs : List Char} {m : Mode} (h : anyMode? cs = some m) :
    2 ≤ (alternatives cs).length ∧ m = .any (alternatives cs) := by
  simp only [anyMode?] at h
  split_ifs at h with hlen
  exact ⟨hlen, (Option.some.inj h).symm⟩

/-- The forms of a text that is not blank and has no tokens, in the order in which they are
tried. -/
theorem modeOf_cases (cs : List Char) :
    (∃ list, idList? cs = some list ∧ splitIds list ≠ [] ∧ modeOf cs = .ids (splitIds list)) ∨
    (idMode? cs = none ∧ ∃ inner p, slashed? cs = some inner ∧
      Matcher.ofText? (String.ofList inner) = some p ∧ modeOf cs = .pattern p) ∨
    (idMode? cs = none ∧ patternMode? cs = none ∧ 2 ≤ (alternatives cs).length ∧
      modeOf cs = .any (alternatives cs)) ∨
    (idMode? cs = none ∧ patternMode? cs = none ∧ anyMode? cs = none ∧
      modeOf cs = .contains (String.ofList (lowercase cs))) := by
  unfold modeOf
  cases hid : idMode? cs with
  | some m =>
    obtain ⟨list, hlist, hne, rfl⟩ := idMode?_eq_some hid
    exact .inl ⟨list, hlist, hne, rfl⟩
  | none =>
    refine .inr ?_
    cases hpattern : patternMode? cs with
    | some m =>
      obtain ⟨inner, p, hinner, hp, rfl⟩ := patternMode?_eq_some hpattern
      exact .inl ⟨rfl, inner, p, hinner, hp, rfl⟩
    | none =>
      refine .inr ?_
      cases hany : anyMode? cs with
      | some m =>
        obtain ⟨hlen, rfl⟩ := anyMode?_eq_some hany
        exact .inl ⟨rfl, rfl, hlen, rfl⟩
      | none => exact .inr ⟨rfl, rfl, rfl, rfl⟩

/-- A blank text asks for nothing, tokens alone for everything, and any other text for what it
selects without its tokens. -/
theorem mode_ofText_cases (text : String) :
    (trim text.toList = [] ∧ ofText text = empty) ∨
    (trim text.toList ≠ [] ∧ trim (extractExclusions (trim text.toList)).1 = [] ∧
      (ofText text).mode = .all) ∨
    (trim text.toList ≠ [] ∧ trim (extractExclusions (trim text.toList)).1 ≠ [] ∧
      (ofText text).mode = modeOf (trim (extractExclusions (trim text.toList)).1)) := by
  by_cases htrim : trim text.toList = []
  · exact .inl ⟨htrim, by simp [ofText, htrim]⟩
  · by_cases hrest : trim (extractExclusions (trim text.toList)).1 = []
    · exact .inr (.inl ⟨htrim, hrest, by simp [ofText, htrim, hrest]⟩)
    · exact .inr (.inr ⟨htrim, hrest, by simp [ofText, htrim, hrest]⟩)

/-! ## Terms -/

/-- The lowercase of a piece is the empty term only if nothing is in the piece. -/
theorem ofList_lowercase_bne (piece : List Char) :
    (String.ofList (lowercase piece) != "") = !piece.isEmpty := by
  cases piece with
  | nil => rfl
  | cons c piece => simp [bne, ← String.toList_inj]

/-- No alternative is empty. -/
theorem ne_empty_of_mem_alternatives {cs : List Char} {term : String}
    (h : term ∈ alternatives cs) : term ≠ "" := by
  have := (List.mem_filter.mp h).2
  simpa using this

/-- The terms of a mode that a text selects are not empty. -/
theorem term_ne_empty_of_modeOf {cs : List Char} (hcs : cs ≠ []) {terms : List String}
    (h : (modeOf cs).terms? = some terms) : ∀ term ∈ terms, term ≠ "" := by
  rcases modeOf_cases cs with
    ⟨_, -, -, hm⟩ | ⟨-, _, _, -, -, hm⟩ | ⟨-, -, -, hm⟩ | ⟨-, -, -, hm⟩ <;> rw [hm] at h
  · exact absurd h (by simp [Mode.terms?])
  · exact absurd h (by simp [Mode.terms?])
  · obtain rfl := Option.some.inj h
    exact fun term => ne_empty_of_mem_alternatives
  · obtain rfl := Option.some.inj h
    simpa using hcs

/-- A query that was read never looks for the empty term. -/
theorem term_ne_empty_of_ofText {text : String} {terms : List String}
    (h : (ofText text).mode.terms? = some terms) : ∀ term ∈ terms, term ≠ "" := by
  rcases mode_ofText_cases text with ⟨-, hq⟩ | ⟨-, -, hm⟩ | ⟨-, hrest, hm⟩
  · exact absurd h (by simp [hq, empty, Mode.terms?])
  · exact absurd h (by simp [hm, Mode.terms?])
  · exact term_ne_empty_of_modeOf hrest (hm ▸ h)

end ChatArchive.Query
