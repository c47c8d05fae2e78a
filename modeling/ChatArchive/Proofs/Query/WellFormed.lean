import ChatArchive.Proofs.Query.Standing
import ChatArchive.Proofs.Store.Keys
import ChatArchive.Proofs.Text.Lowered

/-!
# Queries that are read are well-formed

Reading never fails, and what it gives is in order whatever the text is (`isWellFormed_ofText`).
Terms are not empty, trimmed and in lowercase; items of lists have neither commas nor blanks in
them; and a list that would have no identifier, or bars that would have one term only, are read in
another way.

Terms are cut out and trimmed before their lowercase is taken, so that all of this rests on the
lowercase: it is its own lowercase, and it makes no blank, comma or bar.
-/

namespace ChatArchive.Query

open ChatArchive.Text
open ChatArchive.Unicode (CharSet keptApart)

/-! ## Terms and items -/

/-- A term that is looked for: it is not empty, and is trimmed and in lowercase. -/
structure IsTerm (term : String) : Prop where
  ne_empty : term ≠ ""
  trimmed : trim term.toList = term.toList
  lowered : lower term = term

/-- An item of a list: it is not empty and has neither commas nor blanks. -/
structure IsItem (item : String) : Prop where
  ne_empty : item ≠ ""
  solid : ∀ c ∈ item.toList, c ≠ ',' ∧ isBlank c = false

/-- A text in lowercase is its own lowercase. -/
theorem lower_ofList_lowercase (cs : List Char) :
    lower (String.ofList (lowercase cs)) = String.ofList (lowercase cs) := by
  rw [lower, String.toList_ofList, lowercase_lowercase]

/-- The text of some characters is not empty. -/
theorem ofList_ne_empty {cs : List Char} (h : cs ≠ []) : String.ofList cs ≠ "" := by
  rw [ne_eq, ← String.toList_inj, String.toList_ofList]
  exact h

/-- The lowercase of a trimmed text is a term. -/
theorem isTerm_lowercase {cs : List Char} (hne : cs ≠ []) (htrim : trim cs = cs) :
    IsTerm (String.ofList (lowercase cs)) where
  ne_empty := ofList_ne_empty (mt lowercase_eq_nil.mp hne)
  trimmed := by rw [String.toList_ofList, trim_lowercase htrim]
  lowered := lower_ofList_lowercase cs

/-- The lowercase of a text without commas and blanks is an item. -/
theorem isItem_lowercase {cs : List Char} (hne : cs ≠ [])
    (hcs : ∀ c ∈ cs, c ≠ ',' ∧ isBlank c = false) : IsItem (String.ofList (lowercase cs)) where
  ne_empty := ofList_ne_empty (mt lowercase_eq_nil.mp hne)
  solid := by
    rw [String.toList_ofList]
    intro d hd
    constructor
    · rintro rfl
      exact (hcs ',' (mem_of_mem_lowercase hd (by decide))).1 rfl
    · refine eq_false_of_ne_true fun hblank => ?_
      rw [(hcs d (mem_of_mem_lowercase hd (holds_keptApart_of_blank hblank))).2] at hblank
      cases hblank

/-! ## Identifiers -/

/-- The name of a list of identifiers: `id:` or `ids:` in letters of either case, of which the last
may be a long s. -/
def IsIdName (cs : List Char) : Prop :=
  ∃ i d plural, cs = i :: d :: (plural ++ [':']) ∧ (i = 'i' ∨ i = 'I') ∧ (d = 'd' ∨ d = 'D') ∧
    plural ∈ [[], ['s'], ['S'], ['ſ']]

/-- The words of a text that are no tokens. -/
def plainWords (text : String) : List (List Char) :=
  ((wordsOf text).filter fun w => !w.isToken).map Word.letters

/-- The identifiers are what stands between commas in the words of the text that are no tokens,
behind the name that these begin with. -/
def IsIdsOf (text : String) (ids : List String) : Prop :=
  ∃ name first rest, IsIdName name ∧ plainWords text = (name ++ first) :: rest ∧
    ids.map String.toList = (first :: rest).flatMap fun letters =>
      (letters.splitOn ',').filter fun id => !id.isEmpty

/-- A list of identifiers has a name for identifiers before it. -/
theorem idList?_eq_some {cs list : List Char} (h : idList? cs = some list) :
    ∃ name, IsIdName name ∧ cs = name ++ list := by
  unfold idList? at h
  split at h
  · rename_i i d rest
    split_ifs at h with hid
    simp only [Bool.and_eq_true, Bool.or_eq_true, beq_iff_eq] at hid
    obtain ⟨hi, hd⟩ := hid
    split at h
    · obtain rfl := Option.some.inj h
      exact ⟨[i, d, ':'], ⟨i, d, [], rfl, hi, hd, by simp⟩, rfl⟩
    · rename_i s c list hother
      split_ifs at h with hs
      simp only [Bool.or_eq_true, beq_iff_eq] at hs
      obtain rfl := Option.some.inj h
      refine ⟨[i, d, s, ':'], ⟨i, d, [s], rfl, hi, hd, ?_⟩, rfl⟩
      rcases hs with (rfl | rfl) | rfl <;> simp
    · cases h
  · cases h

/-- There is no blank in a name. -/
theorem IsIdName.solid {name : List Char} (h : IsIdName name) :
    ∀ c ∈ name, isBlank c = false := by
  obtain ⟨i, d, plural, rfl, hi, hd, hplural⟩ := h
  have hfirst : isBlank i = false ∧ isBlank d = false := by
    rcases hi with rfl | rfl <;> rcases hd with rfl | rfl <;> exact ⟨by decide, by decide⟩
  have hlast : ∀ c ∈ plural ++ [':'], isBlank c = false := by
    simp only [List.mem_cons, List.not_mem_nil, or_false] at hplural
    rcases hplural with rfl | rfl | rfl | rfl <;> exact solid_of_all (by decide)
  exact List.forall_mem_cons.mpr ⟨hfirst.1, List.forall_mem_cons.mpr ⟨hfirst.2, hlast⟩⟩

/-- What stands between the commas of such a list is an item. -/
theorem isItem_of_mem_splitIds {list : List Char} {id : String} (h : id ∈ splitIds list) :
    IsItem id := by
  obtain ⟨piece, hpiece, rfl⟩ := List.mem_map.mp h
  obtain ⟨hne, hsolid⟩ := of_mem_fields hpiece
  refine ⟨ofList_ne_empty hne, ?_⟩
  rw [String.toList_ofList]
  intro c hc
  simpa using hsolid c hc

/-- The text that is left has the words that are no tokens. -/
theorem fields_remainder (text : String) : fields isBlank (remainder text) = plainWords text := by
  rw [← letters_words, remainder, words_spell (isFlush_keptWords (isFlush_wordsOf text).tail).tail,
    letters_keptWords]
  rfl

/-- The identifiers of a list are those of its words. -/
theorem isIdsOf_splitIds {text : String} {list : List Char}
    (h : idList? (remainder text) = some list) : IsIdsOf text (splitIds list) := by
  obtain ⟨name, hname, htext⟩ := idList?_eq_some h
  obtain ⟨first, rest, hlist⟩ := exists_splitBy_eq_cons isBlank list
  have hwords : fields isBlank (name ++ list) =
      (name ++ first) :: rest.filter fun piece => !piece.isEmpty := by
    obtain ⟨i, d, plural, rfl, -⟩ := id hname
    rw [fields, splitBy_append_of_forall hname.solid hlist]
    rfl
  have hcommas : ∀ letters, fields (· == ',') letters =
      (letters.splitOn ',').filter fun id => !id.isEmpty := fun letters => by
    rw [fields, splitBy_eq_splitOnP]
    rfl
  -- a word that is not there has no identifiers
  have hempty : ∀ pieces : List (List Char), (pieces.filter fun piece => !piece.isEmpty).flatMap
      (fields (· == ',')) = pieces.flatMap (fields (· == ',')) := by
    intro pieces
    induction pieces with
    | nil => rfl
    | cons piece pieces ih =>
      cases piece with
      | nil => simpa [fields, splitBy_nil] using ih
      | cons c piece => simpa using ih
  refine ⟨name, first, _, hname, by rw [← fields_remainder, htext, hwords], ?_⟩
  calc (splitIds list).map String.toList
      = fields (fun c => c == ',' || isBlank c) list := by
        simp [splitIds, List.map_map, Function.comp_def]
    _ = fields (· == ',') first ++ rest.flatMap (fields (· == ',')) := by
        rw [fields_or, hlist, List.flatMap_cons]
    _ = (first :: rest.filter fun piece => !piece.isEmpty).flatMap (fields (· == ',')) := by
        rw [List.flatMap_cons, hempty]
    _ = _ := List.flatMap_congr fun letters _ => hcommas letters

/-! ## Queries -/

/-- What a mode that was read from a text has to satisfy. -/
def Mode.IsWellFormed (text : String) : Mode → Prop
  | .contains term => IsTerm term
  | .any terms => 2 ≤ terms.length ∧ ∀ term ∈ terms, IsTerm term ∧ '|' ∉ term.toList
  | .ids wanted => wanted ≠ [] ∧ (∀ id ∈ wanted, IsItem id) ∧ IsIdsOf text wanted
  | _ => True

/-- What a query that was read from a text has to satisfy. -/
structure IsWellFormed (text : String) (q : Query) : Prop where
  none_iff : q.mode = .none ↔ ∀ c ∈ text.toList, isBlank c = true
  no_exclusions : q.mode = .none → q.exclusions = []
  mode : q.mode.IsWellFormed text
  distinct : q.exclusions.Nodup
  exclusions : ∀ term ∈ q.exclusions, IsItem term ∧ lower term = term

/-- An alternative is a term without a bar. -/
theorem isTerm_of_mem_alternatives {cs : List Char} {term : String} (h : term ∈ alternatives cs) :
    IsTerm term ∧ '|' ∉ term.toList := by
  rw [alternatives_eq] at h
  obtain ⟨piece, hpiece, rfl⟩ := List.mem_map.mp h
  obtain ⟨htrimmed, hne⟩ := List.mem_filter.mp hpiece
  obtain ⟨whole, hwhole, rfl⟩ := List.mem_map.mp htrimmed
  refine ⟨isTerm_lowercase (by simpa using hne) (trim_trim whole), fun hbar => ?_⟩
  rw [String.toList_ofList] at hbar
  have hmem : '|' ∈ whole := mem_of_mem_trim (mem_of_mem_lowercase hbar (by decide))
  exact absurd (mem_of_mem_splitBy hwhole '|' hmem).2 (by decide)

/-- The mode of a remainder that is not empty is well-formed, and looks for something. -/
theorem isWellFormed_modeOf {text : String} (hne : remainder text ≠ []) :
    (modeOf (remainder text)).IsWellFormed text ∧ modeOf (remainder text) ≠ .none := by
  have htrim : trim (remainder text) = remainder text :=
    trim_spell_of_isFlush (isFlush_keptWords (isFlush_wordsOf text).tail)
  rcases modeOf_cases (remainder text) with
    ⟨list, hlist, hids, hm⟩ | ⟨-, _, _, -, -, hm⟩ | ⟨-, -, hlength, hm⟩ | ⟨-, -, -, hm⟩ <;> rw [hm]
  · exact ⟨⟨hids, fun _ => isItem_of_mem_splitIds, isIdsOf_splitIds hlist⟩, nofun⟩
  · exact ⟨trivial, nofun⟩
  · exact ⟨⟨hlength, fun _ => isTerm_of_mem_alternatives⟩, nofun⟩
  · exact ⟨isTerm_lowercase hne htrim, nofun⟩

/-- What a token lists. -/
theorem isItem_of_mem_exclusions {text term : String} (h : term ∈ (ofText text).exclusions) :
    IsItem term ∧ lower term = term := by
  obtain ⟨w, -, -, hlisted⟩ := mem_exclusions_iff.mp h
  obtain ⟨piece, hpiece, hne, rfl⟩ := mem_listed_iff.mp hlisted
  refine ⟨isItem_lowercase hne fun c hc => ?_, lower_ofList_lowercase piece⟩
  obtain ⟨hmem, hcomma⟩ := mem_of_mem_splitBy hpiece c hc
  exact ⟨by simpa using hcomma, w.solid_list c hmem⟩

/-- Every text is read as a well-formed query. -/
theorem isWellFormed_ofText (text : String) : IsWellFormed text (ofText text) := by
  have hmode := mode_ofText text
  have hblank : wordsOf text = [] ↔ ∀ c ∈ text.toList, isBlank c = true :=
    wordsOf_eq_nil_iff.trans trim_eq_nil_iff
  have hexclusions : wordsOf text = [] → (ofText text).exclusions = [] := by
    intro hnil
    rw [exclusions_ofText, hnil]
    rfl
  have hkept : ¬(wordsOf text).all Word.isToken = true → remainder text ≠ [] := by
    intro hplain hnil
    exact hplain (keptWords_eq_nil_iff.mp (spell_eq_nil_iff.mp hnil))
  have hwords : ((ofText text).mode = .none ↔ wordsOf text = []) ∧
      (ofText text).mode.IsWellFormed text := by
    rw [hmode]
    split_ifs with hnil hall
    · exact ⟨iff_of_true rfl hnil, trivial⟩
    · exact ⟨iff_of_false nofun hnil, trivial⟩
    · obtain ⟨hwell, hnone⟩ := isWellFormed_modeOf (hkept hall)
      exact ⟨iff_of_false hnone hnil, hwell⟩
  refine ⟨hwords.1.trans hblank, fun h => hexclusions (hwords.1.mp h), hwords.2, ?_,
    fun _ => isItem_of_mem_exclusions⟩
  rw [exclusions_ofText]
  exact nodup_eraseDups _

end ChatArchive.Query
