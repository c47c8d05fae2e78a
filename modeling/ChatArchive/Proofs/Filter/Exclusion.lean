import ChatArchive.Proofs.Filter.Verdict
import ChatArchive.Proofs.Query.Exclusion

/-!
# What exclusions hide

An excluded term in a title hides the record while only titles are searched
(`exclusion_precedence`).  Where content is searched, too, the modes differ: in a search for
identifiers one searched text with an excluded term hides the record, and in any other search a
text without one can still show it (`verdict_of_excluded`).
-/

namespace ChatArchive

open ChatArchive.Text

namespace Criteria

/-- In a search for identifiers no searched text of what is found holds an excluded term. -/
theorem not_excludes_of_idSearch {c : Criteria} {r : Record} (hids : c.query.isIdSearch = true)
    (h : c.Finds r) : ∀ t ∈ c.searchedTexts r, ¬ c.query.Excludes t := by
  unfold Finds at h
  unfold Query.isIdSearch Query.Mode.isIds at hids
  split at hids
  · next hm =>
    rw [hm] at h
    exact h.2
  · cases hids

/-- Any other search is for a searched text. -/
theorem finds_iff_of_not_idSearch {c : Criteria} {r : Record}
    (hids : c.query.isIdSearch = false) :
    c.Finds r ↔ ∃ t ∈ c.searchedTexts r, c.query.Matches t := by
  unfold Finds
  split
  · next wanted hm =>
    rw [Query.isIdSearch, hm] at hids
    cases hids
  · rfl

/-- A record that is shown has a searched text without excluded terms. -/
theorem exists_not_excluded {c : Criteria} {r : Record} (h : c.Finds r) :
    ∃ t ∈ c.searchedTexts r, ¬ c.query.Excludes t := by
  cases hids : c.query.isIdSearch with
  | true =>
    have htitle : r.title.text ∈ c.searchedTexts r := List.mem_cons_self
    exact ⟨_, htitle, not_excludes_of_idSearch hids h _ htitle⟩
  | false =>
    obtain ⟨t, ht, hmatches⟩ := (finds_iff_of_not_idSearch hids).mp h
    exact ⟨t, ht, hmatches.1⟩

/-- With an excluded term in a searched text, a search for identifiers finds nothing. -/
theorem finds_iff_of_excluded {c : Criteria} {r : Record}
    (h : ∃ t ∈ c.searchedTexts r, c.query.Excludes t) :
    c.Finds r ↔ c.query.isIdSearch = false ∧ ∃ t ∈ c.searchedTexts r, c.query.Matches t := by
  cases hids : c.query.isIdSearch with
  | true =>
    obtain ⟨t, ht, hexcludes⟩ := h
    have hnone : ¬ c.Finds r := fun hfinds => not_excludes_of_idSearch hids hfinds t ht hexcludes
    simp [hnone]
  | false => simp [finds_iff_of_not_idSearch hids]

/-- What does not satisfy the criteria is hidden. -/
theorem verdict_eq_hidden_iff (c : Criteria) (r : Record) :
    c.verdict r = .hidden ↔ ¬ c.Shows r := by
  rw [← isVisible_verdict_iff]
  cases c.verdict r <;> simp [Verdict.isVisible]

/-- A record is hidden if every searched text holds an excluded term. -/
theorem hidden_of_all_excluded {c : Criteria} {r : Record}
    (h : ∀ t ∈ c.searchedTexts r, c.query.Excludes t) : c.verdict r = .hidden := by
  rw [verdict_eq_hidden_iff]
  intro hshows
  obtain ⟨t, ht, hnot⟩ := exists_not_excluded hshows.2
  exact hnot (h t ht)

/-- A field in which something was found holds no excluded term. -/
theorem not_excludes_of_mem_foundFields {c : Criteria} {r : Record} {f : SearchText}
    (h : f ∈ c.foundFields r) : ¬ c.query.Excludes f.text :=
  ((Query.accepts_iff c.query f).mp (List.mem_filter.mp h).2).1

/-- What a record comes to of which a searched text holds an excluded term.  It is hidden in a
search for identifiers, and while only titles are searched.  In any other search it is shown if its
other searched text holds no excluded term and what is looked for; what is noted then, is of that
text alone. -/
theorem verdict_of_excluded {c : Criteria} {r : Record}
    (h : ∃ t ∈ c.searchedTexts r, c.query.Excludes t) :
    (c.verdict r = .hidden ↔ c.query.isIdSearch = true ∨ ¬ c.Within r.updatedAt ∨
      ∀ t ∈ c.searchedTexts r, c.query.Excludes t ∨ ¬ c.query.mode.Holds t) ∧
    (c.searchContent = false → c.verdict r = .hidden) ∧
    ∀ f ∈ c.foundFields r, ¬ c.query.Excludes f.text := by
  obtain ⟨t, ht, hexcludes⟩ := h
  refine ⟨?_, ?_, fun f => not_excludes_of_mem_foundFields⟩
  · rw [verdict_eq_hidden_iff, Shows, finds_iff_of_excluded ⟨t, ht, hexcludes⟩, not_and_or,
      not_and_or, Bool.not_eq_false, or_left_comm]
    simp only [Query.Matches, not_exists, not_and_or, not_not, imp_iff_not_or]
  · intro hcontent
    refine hidden_of_all_excluded fun s hs => ?_
    rw [searchedTexts, hcontent] at hs ht
    rwa [List.mem_singleton.mp hs, ← List.mem_singleton.mp ht]

/-- A record with an excluded term in its title, and without one in its content. -/
def debugAlpha : Record :=
  (Record.ofListing "1" "Debug alpha" Timestamp.epoch).setContent "alpha notes"

/-- Everything but one term, with content searched or not. -/
def notDebug (content : Bool) : Criteria :=
  (ofQuery (Query.ofText "not:debug")).withContent content

/-- The criteria ask for everything without the word. -/
theorem notDebug_eq (content : Bool) :
    notDebug content = ⟨⟨.all, ["debug"]⟩, none, none, content, Query.defaultContext⟩ := by
  have hmode : (Query.ofText "not:debug").mode = .all := by
    rw [Query.mode_ofText, if_neg (by decide +kernel), if_pos (by decide +kernel)]
  have hexclusions : (Query.ofText "not:debug").exclusions = ["debug"] := by
    rw [Query.exclusions_ofText]
    decide +kernel
  rw [← hmode, ← hexclusions]
  rfl

/-- The title holds the word. -/
theorem excludes_debugAlpha (content : Bool) :
    ∃ t ∈ (notDebug content).searchedTexts debugAlpha, (notDebug content).query.Excludes t := by
  refine ⟨"Debug alpha", List.mem_cons_self, ?_⟩
  rw [notDebug_eq]
  exact ⟨"debug", List.mem_singleton_self _, [], " alpha".toList, by decide +kernel⟩

/-- With content searched the record is shown, for its content does not hold the word. -/
theorem verdict_debugAlpha : (notDebug true).verdict debugAlpha = .shown := by
  rw [notDebug_eq]
  decide +kernel

/-- With content the record is shown because of its other text, and without it is hidden. -/
theorem verdict_of_excluded_title :
    (∃ t ∈ (notDebug true).searchedTexts debugAlpha, (notDebug true).query.Excludes t) ∧
      (∃ t ∈ (notDebug true).searchedTexts debugAlpha,
        ¬ (notDebug true).query.Excludes t ∧ (notDebug true).query.mode.Holds t) ∧
      (notDebug false).verdict debugAlpha = .hidden := by
  obtain ⟨hiff, -, -⟩ := verdict_of_excluded (excludes_debugAlpha true)
  obtain ⟨-, hhidden, -⟩ := verdict_of_excluded (excludes_debugAlpha false)
  refine ⟨excludes_debugAlpha true, ?_, hhidden rfl⟩
  by_contra hnone
  have hall : ∀ t ∈ (notDebug true).searchedTexts debugAlpha,
      (notDebug true).query.Excludes t ∨ ¬ (notDebug true).query.mode.Holds t := by
    intro t ht
    by_contra hnot
    rw [not_or, not_not] at hnot
    exact hnone ⟨t, ht, hnot⟩
  have hshown := hiff.mpr (.inr (.inr hall))
  rw [verdict_debugAlpha] at hshown
  cases hshown

/-- An excluded term in a searched text does not hide every record. -/
theorem excluded_title_is_shown :
    ¬∀ (c : Criteria) (r : Record),
      (∃ t ∈ c.searchedTexts r, c.query.Excludes t) → c.verdict r = .hidden := by
  intro hhides
  have hhidden := hhides (notDebug true) debugAlpha (excludes_debugAlpha true)
  rw [verdict_debugAlpha] at hhidden
  cases hhidden

end Criteria

namespace Query

/-- A text whose lowercase holds that of what stands behind `not:` satisfies no query that ends so,
whatever the query asks for, and a record with that title is hidden while only titles are searched.
What stands behind `not:` may go on with commas, blanks and tokens of its own. -/
theorem exclusion_precedence (p e t : String)
    (he : ∃ c ∈ e.toList.takeWhile (fun c => !isBlank c), c ≠ ',')
    (ht : lowercase e.toList <:+: lowercase t.toList) :
    (ofText (p ++ " not:" ++ e)).accepts (.ofString t) = false ∧
    ∀ (c : Criteria) (r : Record), c.query = ofText (p ++ " not:" ++ e) →
      c.searchContent = false → r.title.text = t → c.verdict r = .hidden := by
  obtain ⟨term, hterm, hinfix⟩ := exists_exclusion p he
  have hexcludes : (ofText (p ++ " not:" ++ e)).Excludes t := ⟨term, hterm, hinfix.trans ht⟩
  constructor
  · rw [← Bool.not_eq_true, accepts_iff]
    exact fun hmatches => hmatches.1 hexcludes
  · intro c r hquery hcontent htitle
    have htexts : c.searchedTexts r = [t] := by
      rw [Criteria.searchedTexts, hcontent, htitle]
      rfl
    refine Criteria.hidden_of_all_excluded fun text htext => ?_
    rw [htexts, List.mem_singleton] at htext
    rwa [htext, hquery]

/-- The excluded list ends with a sigma and goes on with another token; the title has it between
other words. -/
theorem exclusion_precedence_of_sigma :
    (∃ c ∈ "ΟΔΟΣ,,b NOT:c".toList.takeWhile (fun c => !isBlank c), c ≠ ',') ∧
    lowercase "ΟΔΟΣ,,b NOT:c".toList <:+: lowercase "Via ΟΔΟΣ,,b NOT:c again".toList ∧
    (ofText ("id:x" ++ " not:" ++ "ΟΔΟΣ,,b NOT:c")).accepts
      (.ofString "Via ΟΔΟΣ,,b NOT:c again") = false ∧
    ∀ (c : Criteria) (r : Record), c.query = ofText ("id:x" ++ " not:" ++ "ΟΔΟΣ,,b NOT:c") →
      c.searchContent = false → r.title.text = "Via ΟΔΟΣ,,b NOT:c again" →
      c.verdict r = .hidden := by
  have hrun : ∃ c ∈ "ΟΔΟΣ,,b NOT:c".toList.takeWhile (fun c => !isBlank c), c ≠ ',' :=
    ⟨'Ο', by decide +kernel, by decide⟩
  have hblank : Separates ' ' := .inr (by decide)
  have hinfix : lowercase "ΟΔΟΣ,,b NOT:c".toList <:+:
      lowercase "Via ΟΔΟΣ,,b NOT:c again".toList := by
    have hsplit : "Via ΟΔΟΣ,,b NOT:c again".toList =
        "Via".toList ++ ' ' :: ("ΟΔΟΣ,,b NOT:c".toList ++ ' ' :: "again".toList) := by
      decide +kernel
    rw [hsplit, lowercase_append_cons hblank, lowercase_append_cons hblank]
    exact ⟨lowercase "Via".toList ++ lowerChar ' ', lowerChar ' ' ++ lowercase "again".toList,
      by simp only [List.append_assoc]⟩
  exact ⟨hrun, hinfix, exclusion_precedence "id:x" _ _ hrun hinfix⟩

end Query

end ChatArchive
