import ChatArchive.Filter.Verdict
import ChatArchive.Proofs.Query.Snippet
import Mathlib.Data.List.Nodup

/-!
# What verdicts say

The verdict on a record is read off stored lowercase texts and a flag.  Here it is said again in
terms of the title and the content alone, with the lowercase worked out anew.

* `isVisible_verdict_iff`: a record is visible exactly if it satisfies the criteria (`Shows`).
* `hit?_verdict_of_located`: a query for terms or a pattern notes which fields satisfy it
  (`Place.Names`), and a query for terms shows a preview.
* `hit?_verdict_eq_none`: nothing is noted on a record otherwise.
-/

namespace ChatArchive

open ChatArchive.Text
open Record (Hit Place)

/-! ## Texts -/

namespace Query

/-- The lowercase of a text holds an excluded term. -/
def Excludes (q : Query) (text : String) : Prop :=
  ∃ term ∈ q.exclusions, term.toList <:+: lowercase text.toList

/-- A text satisfies a mode. -/
def Mode.Holds (m : Mode) (text : String) : Prop :=
  match m with
  | .none | .all => True
  | .contains term => term.toList <:+: lowercase text.toList
  | .any terms => ∃ term ∈ terms, term.toList <:+: lowercase text.toList
  | .pattern p => p.isMatch text.toList = true
  | .ids _ => False

/-- A text satisfies a query. -/
def Matches (q : Query) (text : String) : Prop := ¬ q.Excludes text ∧ q.mode.Holds text

/-- Modes that look for a place in a text: terms and patterns. -/
def Mode.IsLocated : Mode → Prop
  | .contains _ | .any _ | .pattern _ => True
  | .none | .all | .ids _ => False

/-- A term is looked for in the lowercase of the text. -/
theorem hasTerm_lowered_iff (t : SearchText) (term : String) :
    hasTerm t.lowered term = true ↔ term.toList <:+: lowercase t.text.toList := by
  rw [hasTerm, occursIn_iff, t.lowered_eq, lower, String.toList_ofList]

/-- The lowercase that is stored decides about exclusions as the text does. -/
theorem isExcluded_iff (q : Query) (t : SearchText) :
    q.isExcluded t.lowered = true ↔ q.Excludes t.text := by
  simp only [isExcluded, List.any_eq_true, hasTerm_lowered_iff, Excludes]

/-- A mode accepts a text with its lowercase exactly if the text satisfies it. -/
theorem mode_accepts_iff (m : Mode) (t : SearchText) : m.accepts t = true ↔ m.Holds t.text := by
  cases m with
  | none => simp [Mode.accepts, Mode.Holds]
  | all => simp [Mode.accepts, Mode.Holds]
  | contains term => exact hasTerm_lowered_iff t term
  | any terms => simp only [Mode.accepts, Mode.Holds, List.any_eq_true, hasTerm_lowered_iff]
  | pattern p => rfl
  | ids wanted => simp [Mode.accepts, Mode.Holds]

/-- A query accepts a text with its lowercase exactly if the text satisfies it. -/
theorem accepts_iff (q : Query) (t : SearchText) : q.accepts t = true ↔ q.Matches t.text := by
  rw [accepts, Bool.and_eq_true, mode_accepts_iff, Bool.not_eq_true', ← Bool.not_eq_true,
    isExcluded_iff, Matches]

/-- An identifier is accepted if it holds one of those that are wanted. -/
theorem acceptsId_iff {q : Query} {wanted : List String} (h : q.mode = .ids wanted)
    (id : String) : q.acceptsId id = true ↔ ∃ w ∈ wanted, w.toList <:+: id.toList := by
  simp only [acceptsId, h, List.any_eq_true, occursIn_iff]

end Query

/-! ## Records -/

/-- A place names exactly the fields of which something holds. -/
def Record.Place.Names (place : Place) (title content : Prop) : Prop :=
  match place with
  | .title => title ∧ ¬ content
  | .content => ¬ title ∧ content
  | .both => title ∧ content

namespace Criteria

/-- A time lies within the bounds, which both belong to the range. -/
def Within (c : Criteria) (t : Timestamp) : Prop :=
  (∀ a, c.after = some a → a.notAfter t) ∧ (∀ b, c.before = some b → t.notAfter b)

/-- The searched texts: the title, and the content if it is there and asked for. -/
def searchedTexts (c : Criteria) (r : Record) : List String :=
  r.title.text :: if c.searchContent then r.contentText?.toList else []

/-- The query alone is satisfied by a record: in a search for identifiers by its identifier, with
no excluded term in a searched text, and in any other search by a searched text. -/
def Finds (c : Criteria) (r : Record) : Prop :=
  match c.query.mode with
  | .ids wanted =>
    (∃ w ∈ wanted, w.toList <:+: r.id.toList) ∧ ∀ t ∈ c.searchedTexts r, ¬ c.query.Excludes t
  | _ => ∃ t ∈ c.searchedTexts r, c.query.Matches t

/-- A record satisfies the criteria. -/
def Shows (c : Criteria) (r : Record) : Prop := c.Within r.updatedAt ∧ c.Finds r

/-- The content is searched and satisfies the query. -/
def ContentMatches (c : Criteria) (r : Record) : Prop :=
  c.searchContent = true ∧ ∃ t, r.contentText? = some t ∧ c.query.Matches t

/-! ## Visibility -/

/-- A time is admitted exactly if it lies within the bounds. -/
theorem admits_iff (c : Criteria) (t : Timestamp) : c.admits t = true ↔ c.Within t := by
  rw [admits, Bool.and_eq_true, Within]
  cases c.after <;> cases c.before <;> simp [Timestamp.notAfter]

/-- The stored texts that are searched are those of the title and the content. -/
theorem searchedTexts_eq (c : Criteria) (r : Record) :
    c.searchedTexts r = (r.title :: (c.searchedContent r).toList).map (·.text) := by
  unfold searchedTexts searchedContent Record.contentText?
  rw [r.isIndexed_eq]
  cases r.content <;> cases c.searchContent <;> simp

/-- Content is accepted exactly if it is searched and satisfies the query. -/
theorem contentMatches_iff (c : Criteria) (r : Record) :
    (c.searchedContent r).any c.query.accepts = true ↔ c.ContentMatches r := by
  unfold ContentMatches searchedContent Record.contentText?
  rw [r.isIndexed_eq]
  cases r.content <;> cases c.searchContent <;> simp [Query.accepts_iff]

/-- A searched text is the title or the content. -/
theorem exists_searchedText_iff (c : Criteria) (r : Record) :
    (∃ t ∈ c.searchedTexts r, c.query.Matches t) ↔
      c.query.Matches r.title.text ∨ c.ContentMatches r := by
  rw [← contentMatches_iff, searchedTexts_eq]
  cases c.searchedContent r <;> simp [Query.accepts_iff]

/-- A record is excluded by its title or its content exactly if a searched text holds an excluded
term. -/
theorem isExcluded_title_or_content_iff (c : Criteria) (r : Record) :
    (c.query.isExcluded r.title.lowered ||
      (c.searchedContent r).any fun t => c.query.isExcluded t.lowered) = true ↔
    ∃ t ∈ c.searchedTexts r, c.query.Excludes t := by
  rw [searchedTexts_eq]
  cases c.searchedContent r <;> simp [Query.isExcluded_iff]

/-- The place is that of the fields which satisfy the query, and there is none if none does. -/
theorem placeOf_cases (title content : Bool) :
    (placeOf title content = none ∧ title = false ∧ content = false) ∨
      ∃ place, placeOf title content = some place ∧
        place.Names (title = true) (content = true) := by
  cases title <;> cases content <;> simp [placeOf, Place.Names]

/-- A search for a place is the verdict of the place. -/
theorem search_of_located {c : Criteria} (h : c.query.mode.IsLocated) (r : Record) :
    c.search r = c.searchPlace r := by
  cases hm : c.query.mode with
  | contains term => simp only [search, hm]
  | any terms => simp only [search, hm]
  | pattern p => simp only [search, hm]
  | none => simp [hm, Query.Mode.IsLocated] at h
  | all => simp [hm, Query.Mode.IsLocated] at h
  | ids wanted => simp [hm, Query.Mode.IsLocated] at h

/-- What a search for a place can come to. -/
theorem searchPlace_cases (c : Criteria) (r : Record) :
    (c.searchPlace r = .hidden ∧ ¬ c.query.Matches r.title.text ∧ ¬ c.ContentMatches r) ∨
      ∃ place, c.searchPlace r = .found ⟨place, c.preview (c.foundFields r)⟩ ∧
        place.Names (c.query.Matches r.title.text) (c.ContentMatches r) ∧
        (c.query.Matches r.title.text ∨ c.ContentMatches r) := by
  rw [← contentMatches_iff, ← Query.accepts_iff, searchPlace]
  rcases placeOf_cases (c.query.accepts r.title) ((c.searchedContent r).any c.query.accepts) with
    ⟨hnone, ht, hc⟩ | ⟨place, hplace, hnames⟩
  · exact .inl ⟨by rw [hnone], by simp [ht], by simp [hc]⟩
  · refine .inr ⟨place, by rw [hplace], hnames, ?_⟩
    cases place with
    | title => exact .inl hnames.1
    | content => exact .inr hnames.2
    | both => exact .inl hnames.1

/-- A query admits a record exactly if the record satisfies it. -/
theorem isVisible_search_iff (c : Criteria) (r : Record) :
    (c.search r).isVisible = true ↔ c.Finds r := by
  have hplain : (c.query.accepts r.title || (c.searchedContent r).any c.query.accepts) = true ↔
      ∃ t ∈ c.searchedTexts r, c.query.Matches t := by
    rw [exists_searchedText_iff, Bool.or_eq_true, Query.accepts_iff, contentMatches_iff]
  have hlocated (h : c.query.mode.IsLocated) :
      (c.search r).isVisible = true ↔ ∃ t ∈ c.searchedTexts r, c.query.Matches t := by
    rw [exists_searchedText_iff, search_of_located h]
    rcases c.searchPlace_cases r with ⟨hs, ht, hc⟩ | ⟨place, hs, -, hor⟩
    · simp [hs, ht, hc, Verdict.isVisible]
    · simp [hs, hor, Verdict.isVisible]
  unfold Finds
  cases hm : c.query.mode with
  | ids wanted =>
    have hexcluded := isExcluded_title_or_content_iff c r
    have hid := Query.acceptsId_iff hm r.id
    simp only [search, hm]
    rw [← hid]
    split_ifs with h
    · rw [Bool.and_eq_true, Bool.not_eq_true', ← Bool.not_eq_true, hexcluded] at h
      simpa [Verdict.isVisible] using h
    · rw [Bool.and_eq_true, Bool.not_eq_true', ← Bool.not_eq_true, hexcluded] at h
      simpa [Verdict.isVisible] using h
  | none =>
    rw [← hplain]
    simp only [search, hm]
    split_ifs with h <;> simp [h, Verdict.isVisible]
  | all =>
    rw [← hplain]
    simp only [search, hm]
    split_ifs with h <;> simp [h, Verdict.isVisible]
  | contains term => exact hlocated (by simp [hm, Query.Mode.IsLocated])
  | any terms => exact hlocated (by simp [hm, Query.Mode.IsLocated])
  | pattern p => exact hlocated (by simp [hm, Query.Mode.IsLocated])

/-- A record is visible exactly if it satisfies the criteria. -/
theorem isVisible_verdict_iff (c : Criteria) (r : Record) :
    (c.verdict r).isVisible = true ↔ c.Shows r := by
  unfold verdict Shows
  rw [← admits_iff, ← isVisible_search_iff]
  split_ifs with h
  · simp [h]
  · simp [h, Verdict.isVisible]

/-! ## Notes -/

/-- Joining shows the first text at least. -/
theorem join_cons_ne_empty {s : String} (h : s ≠ "") (sep : String) (rest : List String) :
    join sep (s :: rest) ≠ "" := by
  unfold join
  cases rest with
  | nil => simpa using h
  | cons t rest =>
    rw [String.intercalate_cons_cons]
    intro he
    simp only [String.append_eq_empty_iff] at he
    exact h he.1.1

/-- The preview of one field is its snippet. -/
theorem preview_singleton (c : Criteria) (t : SearchText) :
    c.preview [t] = c.query.snippet t.text c.context := by
  rw [preview, List.map_singleton]
  by_cases hempty : c.query.snippet t.text c.context = ""
  · rw [hempty]
    rfl
  · rw [List.filter_cons_of_pos (by simpa using hempty)]
    exact String.intercalate_singleton

/-- A preview shows something if the query has a snippet for some field. -/
theorem preview_ne_empty {c : Criteria} {fields : List SearchText} {t : SearchText}
    (ht : t ∈ fields) (hs : c.query.snippet t.text c.context ≠ "") : c.preview fields ≠ "" := by
  unfold preview
  have hmem : c.query.snippet t.text c.context ∈
      (fields.map fun t => c.query.snippet t.text c.context).filter fun s => s != "" :=
    List.mem_filter.mpr ⟨List.mem_map.mpr ⟨t, ht, rfl⟩, by simpa using hs⟩
  cases hl : (fields.map fun t => c.query.snippet t.text c.context).filter fun s => s != "" with
  | nil => simp [hl] at hmem
  | cons s rest =>
    have hne : s ≠ "" := by
      have := List.of_mem_filter (hl ▸ List.mem_cons_self : s ∈ List.filter _ _)
      simpa using this
    exact join_cons_ne_empty hne previewSeparator rest

/-- The preview of a query for terms shows something if any searched text satisfies the query. -/
theorem preview_foundFields_ne_empty {c : Criteria} {terms : List String}
    (h : c.query.mode.terms? = some terms) (hne : ∀ term ∈ terms, term ≠ "") {r : Record}
    (hfound : c.query.Matches r.title.text ∨ c.ContentMatches r) :
    c.preview (c.foundFields r) ≠ "" := by
  rw [← exists_searchedText_iff, searchedTexts_eq] at hfound
  obtain ⟨text, htext, hmatches⟩ := hfound
  obtain ⟨t, ht, rfl⟩ := List.mem_map.mp htext
  refine preview_ne_empty (List.mem_filter.mpr ⟨ht, (Query.accepts_iff c.query t).mpr hmatches⟩) ?_
  rw [Query.snippet_ne_empty_iff h hne]
  cases hm : c.query.mode with
  | contains term =>
    rw [hm] at h
    obtain rfl := Option.some.inj h
    have := hmatches.2
    rw [hm] at this
    exact ⟨term, List.mem_singleton_self term, this⟩
  | any ts =>
    rw [hm] at h
    obtain rfl := Option.some.inj h
    have := hmatches.2
    rw [hm] at this
    exact this
  | none => simp [hm, Query.Mode.terms?] at h
  | all => simp [hm, Query.Mode.terms?] at h
  | pattern p => simp [hm, Query.Mode.terms?] at h
  | ids wanted => simp [hm, Query.Mode.terms?] at h

/-- What is noted on a visible record in a search for a place: the fields that satisfy the query,
and the preview of these. -/
theorem hit?_verdict_of_located {c : Criteria} (h : c.query.mode.IsLocated) {r : Record}
    (hr : c.Shows r) : ∃ place, (c.verdict r).hit? = some ⟨place, c.preview (c.foundFields r)⟩ ∧
      place.Names (c.query.Matches r.title.text) (c.ContentMatches r) ∧
      (c.query.Matches r.title.text ∨ c.ContentMatches r) := by
  have hvisible := (isVisible_search_iff c r).mpr hr.2
  rw [verdict, if_pos ((admits_iff c r.updatedAt).mpr hr.1)]
  rw [search_of_located h] at hvisible ⊢
  rcases c.searchPlace_cases r with ⟨hs, -, -⟩ | ⟨place, hs, hnames, hor⟩
  · simp [hs, Verdict.isVisible] at hvisible
  · exact ⟨place, by rw [hs]; rfl, hnames, hor⟩

/-- Nothing is noted on a record that is not visible, nor by a search that looks for no place. -/
theorem hit?_verdict_eq_none {c : Criteria} {r : Record}
    (h : ¬ (c.Shows r ∧ c.query.mode.IsLocated)) : (c.verdict r).hit? = none := by
  by_cases hr : c.Shows r
  · have hmode : ¬ c.query.mode.IsLocated := fun hl => h ⟨hr, hl⟩
    rw [verdict, if_pos ((admits_iff c r.updatedAt).mpr hr.1)]
    cases hm : c.query.mode with
    | ids wanted =>
      simp only [search, hm]
      split_ifs <;> rfl
    | none =>
      simp only [search, hm]
      split_ifs <;> rfl
    | all =>
      simp only [search, hm]
      split_ifs <;> rfl
    | contains term => exact absurd (by simp [hm, Query.Mode.IsLocated]) hmode
    | any terms => exact absurd (by simp [hm, Query.Mode.IsLocated]) hmode
    | pattern p => exact absurd (by simp [hm, Query.Mode.IsLocated]) hmode
  · rw [← isVisible_verdict_iff] at hr
    cases hv : c.verdict r <;> simp_all [Verdict.isVisible, Verdict.hit?]

/-! ## Positions -/

/-- The positions are those of the records that satisfy the criteria. -/
theorem mem_visiblePositions {c : Criteria} {rs : List Record} {i : Nat} :
    i ∈ c.visiblePositions rs ↔ ∃ r, rs[i]? = some r ∧ c.Shows r := by
  simp only [visiblePositions, List.mem_map, List.mem_filter, Prod.exists, exists_eq_right,
    List.mem_zipIdx_iff_getElem?, isVisible_verdict_iff]

/-- The visible positions are found in the order of the records. -/
theorem visiblePositions_pairwise (c : Criteria) (rs : List Record) :
    (c.visiblePositions rs).Pairwise (· < ·) := by
  have hsub : (c.visiblePositions rs).Sublist (rs.zipIdx.map (·.2)) :=
    List.filter_sublist.map _
  rw [List.zipIdx_map_snd] at hsub
  exact (List.pairwise_lt_range' 1).sublist hsub

end Criteria

end ChatArchive
