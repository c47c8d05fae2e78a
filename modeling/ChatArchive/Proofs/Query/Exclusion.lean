import ChatArchive.Proofs.Query.ByWords
import ChatArchive.Proofs.Text.Separator

/-!
# What a query excludes

A query excludes the terms that its tokens list, in lowercase (`mem_exclusions_iff`).  A term is cut
out of the text before its lowercase is taken, but it is cut out at blanks and commas, and these do
not change the lowercase on either side.  So a token behind any other text excludes a term that is
part of the lowercase of the token's list (`exists_exclusion`).
-/

namespace ChatArchive.Query

open ChatArchive.Text

/-- The excluded terms of a query are those of its tokens. -/
theorem mem_exclusions_iff {text term : String} : term ∈ (ofText text).exclusions ↔
    ∃ w ∈ wordsOf text, w.isToken = true ∧ term ∈ listed w.list := by
  rw [exclusions_ofText, List.mem_eraseDups, List.mem_flatMap]
  simp only [List.mem_filter, and_assoc]

/-- The terms of a list are the pieces between its commas that are not empty, in lowercase. -/
theorem mem_listed_iff {list : List Char} {term : String} : term ∈ listed list ↔
    ∃ piece ∈ splitBy (· == ',') list, piece ≠ [] ∧ String.ofList (lowercase piece) = term := by
  have hsplit : splitBy (· == ',') list = list.splitOn ',' := splitBy_eq_splitOnP _ list
  simp only [listed, hsplit, List.mem_map, List.mem_filter, Bool.not_eq_true',
    List.isEmpty_eq_false_iff, and_assoc]

/-- What stands between blanks is a word. -/
theorem exists_word_of_mem_fields (text : String) {letters : List Char}
    (h : letters ∈ fields isBlank text.toList) : ∃ w ∈ wordsOf text, w.letters = letters := by
  have hfront : (front (words text.toList)).map Word.letters = fields isBlank text.toList := by
    rw [← letters_words]
    cases words text.toList <;> rfl
  rw [← hfront, ← words_trim] at h
  obtain ⟨w, hw, hletters⟩ := List.mem_map.mp h
  exact ⟨w, hw, hletters⟩

/-- A run without blanks is between blanks where one stands before it and one behind it, or
nothing. -/
theorem mem_fields_of_run {run rest : List Char} (hrun : ∀ c ∈ run, isBlank c = false)
    (hne : run ≠ []) (hrest : EndsWord rest) {b : Char} (hb : isBlank b = true)
    (before : List Char) : run ∈ fields isBlank (before ++ b :: (run ++ rest)) := by
  have hpiece : run ∈ splitBy isBlank (run ++ rest) := by
    cases rest with
    | nil => rw [List.append_nil, splitBy_of_forall hrun]; exact List.mem_singleton_self run
    | cons c rest =>
      rw [splitBy_append_cons (hrest c rfl), splitBy_of_forall hrun]
      exact List.mem_cons_self
  rw [fields, splitBy_append_cons hb]
  exact List.mem_filter.mpr ⟨List.mem_append_right _ hpiece, by simpa using hne⟩

/-! ## Tokens in a text -/

/-- A token behind a blank excludes every term of its list. -/
theorem mem_exclusions_of_run (before : List Char) {run rest : List Char}
    (hrun : ∀ c ∈ run, isBlank c = false) (hne : run ≠ []) (hrest : EndsWord rest)
    {term : String} (hterm : term ∈ listed run) :
    term ∈
      (ofText (String.ofList (before ++ ' ' :: ("not:".toList ++ run ++ rest)))).exclusions := by
  have hname : ∀ c ∈ "not:".toList, isBlank c = false := solid_of_all (by decide)
  have hletters : ∀ c ∈ "not:".toList ++ run, isBlank c = false := by
    simp only [List.mem_append, or_imp, forall_and]
    exact ⟨hname, hrun⟩
  have hfield := mem_fields_of_run hletters (by simp) hrest (b := ' ') (by decide) before
  rw [mem_exclusions_iff]
  obtain ⟨w, hw, hwletters⟩ := exists_word_of_mem_fields
    (String.ofList (before ++ ' ' :: ("not:".toList ++ run ++ rest)))
    (by rwa [String.toList_ofList])
  have hlist : w.list = run := by
    rw [Word.list, hwletters]
    rfl
  have htoken : w.isToken = true := isToken_iff.mpr ⟨'n', 'o', 't', ':',
    ⟨by decide, by decide, by decide, rfl⟩, by rw [hlist]; exact hwletters, by rwa [hlist]⟩
  exact ⟨w, hw, htoken, hlist.symm ▸ hterm⟩

/-- A list that is not made up of commas has a term. -/
theorem exists_mem_listed {list : List Char} (h : ∃ c ∈ list, c ≠ ',') :
    ∃ term, term ∈ listed list := by
  obtain ⟨c, hc, hcomma⟩ := h
  obtain ⟨piece, hpiece, hmem⟩ := exists_mem_splitBy (p := (· == ',')) hc (by simpa using hcomma)
  exact ⟨_, mem_listed_iff.mpr ⟨piece, hpiece, List.ne_nil_of_mem hmem, rfl⟩⟩

/-- A term is cut out of its list without a change to its lowercase. -/
theorem infix_of_mem_listed {list : List Char} {term : String} (h : term ∈ listed list) :
    term.toList <:+: lowercase list := by
  obtain ⟨piece, hpiece, -, rfl⟩ := mem_listed_iff.mp h
  rw [String.toList_ofList]
  exact lowercase_infix_of_mem_splitBy (fun c hc => .inl (by simpa using hc)) hpiece

/-- The first run of a text has the lowercase that it has in the text. -/
theorem lowercase_prefix (run : List Char) {rest : List Char} (hrest : EndsWord rest) :
    lowercase run <+: lowercase (run ++ rest) := by
  cases rest with
  | nil => simp
  | cons b rest =>
    rw [lowercase_append_cons (.inr (hrest b rfl)), List.append_assoc]
    exact List.prefix_append _ _

/-- A token behind other text excludes a term whose lowercase is part of that of its list and of
what follows. -/
theorem exists_exclusion (p : String) {e : String}
    (he : ∃ c ∈ e.toList.takeWhile (fun c => !isBlank c), c ≠ ',') :
    ∃ term ∈ (ofText (p ++ " not:" ++ e)).exclusions, term.toList <:+: lowercase e.toList := by
  have hsplit : e.toList.takeWhile (fun c => !isBlank c) ++
      e.toList.dropWhile (fun c => !isBlank c) = e.toList := List.takeWhile_append_dropWhile
  have hrun : ∀ c ∈ e.toList.takeWhile (fun c => !isBlank c), isBlank c = false := by
    intro c hc
    simpa using List.mem_takeWhile_imp hc
  have hrest : EndsWord (e.toList.dropWhile fun c => !isBlank c) := by
    intro c hc
    have hnot := List.head?_dropWhile_not (fun c => !isBlank c) e.toList
    rw [Option.mem_def.mp hc] at hnot
    simpa using hnot
  obtain ⟨term, hterm⟩ := exists_mem_listed he
  obtain ⟨c, hc, -⟩ := he
  have hexcluded := mem_exclusions_of_run p.toList hrun (List.ne_nil_of_mem hc) hrest hterm
  have htext : String.ofList (p.toList ++ ' ' :: ("not:".toList ++
      e.toList.takeWhile (fun c => !isBlank c) ++ e.toList.dropWhile fun c => !isBlank c)) =
      p ++ " not:" ++ e := by
    rw [List.append_assoc, hsplit, ← String.toList_inj, String.toList_ofList]
    simp
  have hprefix := lowercase_prefix (e.toList.takeWhile fun c => !isBlank c) hrest
  rw [hsplit] at hprefix
  rw [htext] at hexcluded
  exact ⟨term, hexcluded, (infix_of_mem_listed hterm).trans hprefix.isInfix⟩

end ChatArchive.Query
