import ChatArchive.Proofs.Text.Lowercase
import ChatArchive.Proofs.Text.Search
import ChatArchive.Query.Matching

/-!
# Snippets show what was found

A term that occurs in the lowercase of a text is located at a span of the text with at least one
character (`locateTerm_fits`), and it is located whenever it occurs (`isSome_locateTerm_iff`).  So
a query for terms has a snippet exactly where one of its terms occurs (`snippet_ne_empty_iff`).
-/

namespace ChatArchive.Query

open ChatArchive.Text

/-- The span has characters, and all of them are in a text of some length. -/
structure Span.FitsIn (s : Span) (length : Nat) : Prop where
  pos : 0 < s.length
  le_length : s.start + s.length ≤ length

/-! ## Single terms -/

/-- A term that was found has an owner for its first and for its last character. -/
theorem exists_owners {text term : List Char} {i : Nat} (hterm : term ≠ [])
    (h : find? term (lowercase text) = some i) :
    ∃ first last, (owners text)[i]? = some first ∧
      (owners text)[i + term.length - 1]? = some last ∧ first ≤ last ∧ last < text.length := by
  have hlen := add_length_le_of_find? h
  have hpos := List.length_pos_iff.mpr hterm
  rw [← length_owners] at hlen
  have hi : i < (owners text).length := by omega
  have hj : i + term.length - 1 < (owners text).length := by omega
  refine ⟨(owners text)[i], (owners text)[i + term.length - 1],
    List.getElem?_eq_getElem hi, List.getElem?_eq_getElem hj, ?_, ?_⟩
  · rcases Nat.eq_or_lt_of_le (show i ≤ i + term.length - 1 by omega) with he | hlt
    · simp only [← he, Nat.le_refl]
    · exact List.pairwise_iff_getElem.mp (owners_pairwise text) i _ hi hj hlt
  · exact lt_length_of_mem_owners (List.getElem_mem hj)

/-- What `locateTerm` gives, once the term was found. -/
theorem locateTerm_of_find? {text term : List Char} {i first last : Nat} (hterm : term ≠ [])
    (h : find? term (lowercase text) = some i) (hfirst : (owners text)[i]? = some first)
    (hlast : (owners text)[i + term.length - 1]? = some last) :
    locateTerm text term = some ⟨first, last + 1 - first⟩ := by
  have hempty : term.isEmpty = false := by simpa using hterm
  simp [locateTerm, hempty, h, hfirst, hlast]

/-- A span that is located fits into the text. -/
theorem locateTerm_fits {text term : List Char} {s : Span} (h : locateTerm text term = some s) :
    s.FitsIn text.length := by
  by_cases hterm : term = []
  · simp [locateTerm, hterm] at h
  cases hfind : find? term (lowercase text) with
  | none => simp [locateTerm, hterm, hfind] at h
  | some i =>
    obtain ⟨first, last, hfirst, hlast, hle, hlt⟩ := exists_owners hterm hfind
    rw [locateTerm_of_find? hterm hfind hfirst hlast] at h
    obtain rfl := Option.some.inj h
    exact ⟨by simp only; omega, by simp only; omega⟩

/-- A term is located exactly if it occurs. -/
theorem isSome_locateTerm_iff {text term : List Char} :
    (locateTerm text term).isSome ↔ term ≠ [] ∧ term <:+: lowercase text := by
  rw [← occursIn_iff]
  by_cases hterm : term = []
  · simp [locateTerm, hterm]
  cases hfind : find? term (lowercase text) with
  | none => simp [locateTerm, hterm, hfind, occursIn]
  | some i =>
    obtain ⟨first, last, hfirst, hlast, -, -⟩ := exists_owners hterm hfind
    simp [locateTerm_of_find? hterm hfind hfirst hlast, hterm, occursIn, hfind]

/-! ## Several terms -/

/-- The earliest of some spans is one of them. -/
theorem mem_of_earliest {spans : List Span} {s : Span} (h : earliest spans = some s) :
    s ∈ spans := by
  induction spans generalizing s with
  | nil => simp [earliest] at h
  | cons t rest ih =>
    rw [earliest] at h
    cases hrest : earliest rest with
    | none =>
      rw [hrest] at h
      obtain rfl := Option.some.inj h
      exact List.mem_cons_self
    | some u =>
      rw [hrest] at h
      simp only at h
      split_ifs at h
      · obtain rfl := Option.some.inj h
        exact List.mem_cons_of_mem _ (ih hrest)
      · obtain rfl := Option.some.inj h
        exact List.mem_cons_self

/-- There is an earliest span if there are any. -/
theorem isSome_earliest_iff {spans : List Span} : (earliest spans).isSome ↔ spans ≠ [] := by
  cases spans with
  | nil => simp [earliest]
  | cons t rest =>
    rw [earliest]
    split
    · split_ifs <;> simp
    · simp

/-- The terms of which one has to occur, if the mode has such. -/
def Mode.terms? : Mode → Option (List String)
  | .contains term => some [term]
  | .any terms => some terms
  | .none | .all | .pattern _ | .ids _ => Option.none

/-- One term is located as one of several would be. -/
theorem locate_of_terms {q : Query} {terms : List String} (h : q.mode.terms? = some terms)
    (text : List Char) :
    q.locate text = earliest (terms.filterMap fun term => locateTerm text term.toList) := by
  cases hm : q.mode with
  | contains term =>
    rw [hm] at h
    obtain rfl := Option.some.inj h
    simp only [locate, hm]
    cases hl : locateTerm text term.toList <;> simp [hl, earliest]
  | any ts =>
    rw [hm] at h
    obtain rfl := Option.some.inj h
    simp only [locate, hm]
  | none => simp [hm, Mode.terms?] at h
  | all => simp [hm, Mode.terms?] at h
  | pattern m => simp [hm, Mode.terms?] at h
  | ids ids => simp [hm, Mode.terms?] at h

/-- A span that is located lies within the text. -/
theorem locate_fits {q : Query} {terms : List String} (h : q.mode.terms? = some terms)
    {text : List Char} {s : Span} (hs : q.locate text = some s) : s.FitsIn text.length := by
  rw [locate_of_terms h] at hs
  obtain ⟨term, -, hterm⟩ := List.mem_filterMap.mp (mem_of_earliest hs)
  exact locateTerm_fits hterm

/-- Some place is located exactly if one of the terms occurs. -/
theorem isSome_locate_iff {q : Query} {terms : List String} (h : q.mode.terms? = some terms)
    (hne : ∀ term ∈ terms, term ≠ "") (text : List Char) :
    (q.locate text).isSome ↔ ∃ term ∈ terms, term.toList <:+: lowercase text := by
  rw [locate_of_terms h, isSome_earliest_iff]
  constructor
  · intro hspans
    obtain ⟨s, hs⟩ := List.exists_mem_of_ne_nil _ hspans
    obtain ⟨term, hmem, hs⟩ := List.mem_filterMap.mp hs
    exact ⟨term, hmem, (isSome_locateTerm_iff.mp (Option.isSome_of_mem hs)).2⟩
  · rintro ⟨term, hmem, hin⟩
    have hnil : term.toList ≠ [] := by simpa using hne term hmem
    obtain ⟨s, hs⟩ := Option.isSome_iff_exists.mp (isSome_locateTerm_iff.mpr ⟨hnil, hin⟩)
    exact List.ne_nil_of_mem (List.mem_filterMap.mpr ⟨term, hmem, hs⟩)

/-! ## Snippets -/

/-- The excerpt around a span has at least the characters of the span. -/
theorem excerpt_ne_nil {text : List Char} {s : Span} (h : s.FitsIn text.length) (context : Nat) :
    excerpt text s context ≠ [] := by
  have hpos := h.pos
  have hle := h.le_length
  have hmiddle : ((text.take (min (s.start + s.length + context) text.length)).drop
      (s.start - context)).length ≠ 0 := by
    simp only [List.length_drop, List.length_take]
    omega
  intro hnil
  apply hmiddle
  simp only [excerpt, List.append_eq_nil_iff, List.map_eq_nil_iff] at hnil
  rw [hnil.1.2, List.length_nil]

/-- A query for terms has a snippet exactly where one of them occurs. -/
theorem snippet_ne_empty_iff {q : Query} {terms : List String} (h : q.mode.terms? = some terms)
    (hne : ∀ term ∈ terms, term ≠ "") (text : String) (context : Nat) :
    q.snippet text context ≠ "" ↔ ∃ term ∈ terms, term.toList <:+: lowercase text.toList := by
  rw [← isSome_locate_iff h hne, snippet]
  cases hs : q.locate text.toList with
  | none => simp
  | some s =>
    have := excerpt_ne_nil (locate_fits h hs) context
    simpa using this

end ChatArchive.Query
