import ChatArchive.Proofs.Filter.Verdict
import ChatArchive.Proofs.Query.Machine
import ChatArchive.Proofs.Query.Standing
import ChatArchive.Proofs.Text.Shares

/-!
# What a snippet shows

A term is found in the lowercase of a text, and a snippet shows the text itself: the characters
whose shares of the lowercase overlap the first occurrence of the term (`IsRange`), with some
characters on each side (`excerpt_eq_cutOut`).  Of several terms the one counts whose characters
begin first, and of those that begin together the one that is listed first (`locate_eq_some_iff`).

A query for terms that was read from a text accepts a text and has a snippet of it in the same case,
and the snippet is that one (`snippet_ofText`).
-/

namespace ChatArchive.Query

open ChatArchive.Text

/-! ## Single terms -/

/-- The characters of a text from `i` to before `j` are those whose shares of the lowercase overlap
the first occurrence of a term in the lowercase. -/
structure IsRange (text term : List Char) (i j : Nat) : Prop where
  lt : i < j
  le_length : j ≤ text.length
  overlaps : ∃ p, IsFirst term (lowercase text) p ∧ ∀ k < text.length,
    i ≤ k ∧ k < j ↔ shareStart text k < p + term.length ∧ p < shareStart text (k + 1)

/-- There is only one range of a term. -/
theorem IsRange.unique {text term : List Char} {i j i' j' : Nat} (h : IsRange text term i j)
    (h' : IsRange text term i' j') : i = i' ∧ j = j' := by
  obtain ⟨hlt, hlength, p, hp, hoverlaps⟩ := h
  obtain ⟨hlt', hlength', p', hp', hoverlaps'⟩ := h'
  obtain rfl : p = p' :=
    Option.some.inj (((find?_eq_some_iff p).mpr hp).symm.trans ((find?_eq_some_iff p').mpr hp'))
  have hsame : ∀ k < text.length, i ≤ k ∧ k < j ↔ i' ≤ k ∧ k < j' :=
    fun k hk => (hoverlaps k hk).trans (hoverlaps' k hk).symm
  have hi := (hsame i (by omega)).mp ⟨le_rfl, hlt⟩
  have hi' := (hsame i' (by omega)).mpr ⟨le_rfl, hlt'⟩
  have hj := (hsame (j - 1) (by omega)).mp (by omega)
  have hj' := (hsame (j' - 1) (by omega)).mpr (by omega)
  omega

/-- From the owner of the first character of a term to that of its last, shares overlap it. -/
theorem isRange_of_owners {text term : List Char} {p first last : Nat} (hterm : term ≠ [])
    (hp : IsFirst term (lowercase text) p) (hfirst : (owners text)[p]? = some first)
    (hlast : (owners text)[p + term.length - 1]? = some last) (hle : first ≤ last)
    (hlt : last < text.length) : IsRange text term first (last + 1) := by
  have hpos := List.length_pos_iff.mpr hterm
  obtain ⟨hlow, hlow'⟩ := shareStart_of_owner hfirst
  obtain ⟨hhigh, hhigh'⟩ := shareStart_of_owner hlast
  refine ⟨Nat.lt_succ_of_le hle, hlt, p, hp, fun k _ => ?_⟩
  have hmono := shareStart_mono text
  constructor
  · rintro ⟨hk, hk'⟩
    have hbefore : shareStart text k ≤ shareStart text last := hmono (Nat.le_of_lt_succ hk')
    have hbehind : shareStart text (first + 1) ≤ shareStart text (k + 1) :=
      hmono (Nat.succ_le_succ hk)
    omega
  · rintro ⟨hbegin, hend⟩
    constructor
    · by_contra hk
      have hbehind : shareStart text (k + 1) ≤ shareStart text first := hmono (by omega)
      omega
    · by_contra hk
      have hbefore : shareStart text (last + 1) ≤ shareStart text k := hmono (by omega)
      omega

/-- A term is located at its range. -/
theorem locateTerm_eq_some_iff {text term : List Char} (hterm : term ≠ []) {s : Span} :
    locateTerm text term = some s ↔
      0 < s.length ∧ IsRange text term s.start (s.start + s.length) := by
  have hrange : ∀ s, locateTerm text term = some s →
      0 < s.length ∧ IsRange text term s.start (s.start + s.length) := by
    intro s hs
    have hfits := locateTerm_fits hs
    cases hfind : find? term (lowercase text) with
    | none => simp [locateTerm, hterm, hfind] at hs
    | some p =>
      obtain ⟨first, last, hfirst, hlast, hle, hlt⟩ := exists_owners hterm hfind
      have hrange := isRange_of_owners hterm ((find?_eq_some_iff p).mp hfind) hfirst hlast hle hlt
      rw [locateTerm_of_find? hterm hfind hfirst hlast] at hs
      obtain rfl := Option.some.inj hs
      have hstop : first + (last + 1 - first) = last + 1 := by omega
      exact ⟨hfits.pos, by rwa [hstop]⟩
  refine ⟨hrange s, ?_⟩
  rintro ⟨hpos, hs⟩
  obtain ⟨p, hp, -⟩ := hs.overlaps
  have hoccurs : term <:+: lowercase text :=
    hp.here.isInfix.trans (List.drop_suffix p _).isInfix
  obtain ⟨u, hu⟩ := Option.isSome_iff_exists.mp (isSome_locateTerm_iff.mpr ⟨hterm, hoccurs⟩)
  obtain ⟨hstart, hstop⟩ := (hrange u hu).2.unique hs
  have hsame : u = s := by
    obtain ⟨start, length⟩ := u
    obtain ⟨start', length'⟩ := s
    simp only at hstart hstop
    simp only [Span.mk.injEq]
    omega
  rw [hu, hsame]

/-- What holds of the beginning of the located term holds of that of its range. -/
theorem forall_located_iff {text term : List Char} (hterm : term ≠ []) {P : Nat → Prop} :
    (∀ s, locateTerm text term = some s → P s.start) ↔ ∀ i j, IsRange text term i j → P i := by
  simp only [locateTerm_eq_some_iff hterm]
  constructor
  · intro h i j hrange
    have hlt := hrange.lt
    have hstop : i + (j - i) = j := by omega
    exact h ⟨i, j - i⟩ ⟨Nat.sub_pos_of_lt hlt, by rwa [hstop]⟩
  · exact fun h s hs => h s.start _ hs.2

/-! ## Several terms -/

/-- The characters from `i` to before `j` are the range of a term.  Terms listed before it have
ranges that begin later, and terms listed behind it have none that begin earlier. -/
def IsFoundAt (terms : List String) (text : List Char) (i j : Nat) : Prop :=
  ∃ before term after, terms = before ++ term :: after ∧ IsRange text term.toList i j ∧
    (∀ other ∈ before, ∀ i' j', IsRange text other.toList i' j' → i < i') ∧
    ∀ other ∈ after, ∀ i' j', IsRange text other.toList i' j' → i ≤ i'

/-- A span that no other one precedes is the earliest. -/
theorem earliest_cons_of_le {s : Span} {spans : List Span} (h : ∀ u ∈ spans, s.start ≤ u.start) :
    earliest (s :: spans) = some s := by
  rw [earliest]
  cases hrest : earliest spans with
  | none => rfl
  | some u => exact if_neg (Nat.not_lt_of_le (h u (mem_of_earliest hrest)))

/-- A span that comes after the earliest of the others is not. -/
theorem earliest_cons_of_lt {s u : Span} {spans : List Span} (h : earliest spans = some u)
    (hlt : u.start < s.start) : earliest (s :: spans) = some u := by
  rw [earliest, h]
  exact if_pos hlt

/-- The earliest span is the first of the list, if no other begins before it, and else that of the
rest. -/
theorem earliest_cons_cases {t s : Span} {spans : List Span}
    (h : earliest (t :: spans) = some s) :
    (s = t ∧ ∀ u, earliest spans = some u → t.start ≤ u.start) ∨
      earliest spans = some s ∧ s.start < t.start := by
  rw [earliest] at h
  cases hrest : earliest spans with
  | none =>
    rw [hrest] at h
    exact .inl ⟨(Option.some.inj h).symm, by simp⟩
  | some u =>
    simp only [hrest] at h
    split_ifs at h with hlt
    · obtain rfl := Option.some.inj h
      exact .inr ⟨rfl, hlt⟩
    · refine .inl ⟨(Option.some.inj h).symm, fun v hv => ?_⟩
      rw [← Option.some.inj hv]
      exact Nat.le_of_not_lt hlt

/-- No span begins before the earliest. -/
theorem start_le_of_earliest {spans : List Span} {s : Span} (h : earliest spans = some s) :
    ∀ u ∈ spans, s.start ≤ u.start := by
  induction spans generalizing s with
  | nil => cases h
  | cons t rest ih =>
    rcases earliest_cons_cases h with ⟨rfl, hleast⟩ | ⟨hrest, hlt⟩
    · refine List.forall_mem_cons.mpr ⟨le_rfl, fun u hu => ?_⟩
      obtain ⟨v, hv⟩ :=
        Option.isSome_iff_exists.mp (isSome_earliest_iff.mpr (List.ne_nil_of_mem hu))
      exact (hleast v hv).trans (ih hv u hu)
    · exact List.forall_mem_cons.mpr ⟨hlt.le, ih hrest⟩

/-- Of the spans that belong to some of a list of things, the earliest is the first of those that
begin first. -/
theorem earliest_filterMap_eq_some_iff {α : Type} {f : α → Option Span} {xs : List α} {s : Span} :
    earliest (xs.filterMap f) = some s ↔ ∃ before x after, xs = before ++ x :: after ∧
      f x = some s ∧ (∀ y ∈ before, ∀ u, f y = some u → s.start < u.start) ∧
      ∀ y ∈ after, ∀ u, f y = some u → s.start ≤ u.start := by
  constructor
  · intro h
    induction xs with
    | nil => cases h
    | cons x xs ih =>
      have hleast := start_le_of_earliest h
      cases hx : f x with
      | none =>
        rw [List.filterMap_cons_none hx] at h
        obtain ⟨before, y, after, rfl, hy, hbefore, hafter⟩ := ih h
        exact ⟨x :: before, y, after, rfl, hy,
          List.forall_mem_cons.mpr ⟨by simp [hx], hbefore⟩, hafter⟩
      | some t =>
        rw [List.filterMap_cons_some hx] at h hleast
        rcases earliest_cons_cases h with ⟨rfl, -⟩ | ⟨hrest, hlt⟩
        · exact ⟨[], x, xs, rfl, hx, nofun, fun y hy u hu => hleast u
            (List.mem_cons_of_mem _ (List.mem_filterMap.mpr ⟨y, hy, hu⟩))⟩
        · obtain ⟨before, y, after, rfl, hy, hbefore, hafter⟩ := ih hrest
          exact ⟨x :: before, y, after, rfl, hy,
            List.forall_mem_cons.mpr ⟨by simp [hx, hlt], hbefore⟩, hafter⟩
  · rintro ⟨before, x, after, rfl, hx, hbefore, hafter⟩
    induction before with
    | nil =>
      rw [List.nil_append, List.filterMap_cons_some hx]
      refine earliest_cons_of_le fun u hu => ?_
      obtain ⟨y, hy, hyu⟩ := List.mem_filterMap.mp hu
      exact hafter y hy u hyu
    | cons y before ih =>
      obtain ⟨hy, hbefore⟩ := List.forall_mem_cons.mp hbefore
      have hrest := ih hbefore
      rw [List.cons_append]
      cases hyu : f y with
      | none => rwa [List.filterMap_cons_none hyu]
      | some u =>
        rw [List.filterMap_cons_some hyu]
        exact earliest_cons_of_lt hrest (hy u hyu)

/-- A query for terms locates the place at which they are found. -/
theorem locate_eq_some_iff {q : Query} {terms : List String} (h : q.mode.terms? = some terms)
    (hne : ∀ term ∈ terms, term ≠ "") {text : List Char} {s : Span} :
    q.locate text = some s ↔
      0 < s.length ∧ IsFoundAt terms text s.start (s.start + s.length) := by
  have hchars : ∀ term ∈ terms, term.toList ≠ [] := fun term hterm => by simpa using hne term hterm
  rw [locate_of_terms h, earliest_filterMap_eq_some_iff]
  constructor
  · rintro ⟨before, term, after, rfl, hs, hbefore, hafter⟩
    obtain ⟨hpos, hrange⟩ := (locateTerm_eq_some_iff (hchars term (by simp))).mp hs
    exact ⟨hpos, before, term, after, rfl, hrange,
      fun other hother => (forall_located_iff (hchars other (by simp [hother]))).mp
        (hbefore other hother),
      fun other hother => (forall_located_iff (hchars other (by simp [hother]))).mp
        (hafter other hother)⟩
  · rintro ⟨hpos, before, term, after, rfl, hrange, hbefore, hafter⟩
    exact ⟨before, term, after, rfl,
      (locateTerm_eq_some_iff (hchars term (by simp))).mpr ⟨hpos, hrange⟩,
      fun other hother => (forall_located_iff (hchars other (by simp [hother]))).mpr
        (hbefore other hother),
      fun other hother => (forall_located_iff (hchars other (by simp [hother]))).mpr
        (hafter other hother)⟩

/-! ## Snippets -/

/-- The characters of a text from `i` to before `j` and `context` more on each side, with line
breaks as spaces, and with marks where characters before or behind them are left out. -/
def cutOut (text : List Char) (i j context : Nat) : List Char :=
  (if context < i then ['.', '.', '.'] else []) ++
    ((text.take (min text.length (j + context))).drop (i - context)).map
      (fun c => if c = '\n' ∨ c = '\r' then ' ' else c) ++
    (if j + context < text.length then ['.', '.', '.'] else [])

/-- An excerpt is what is cut out around the span. -/
theorem excerpt_eq_cutOut (text : List Char) (s : Span) (context : Nat) :
    excerpt text s context = cutOut text s.start (s.start + s.length) context := by
  have hstart : 0 < s.start - context ↔ context < s.start := by omega
  have hstop : min text.length (s.start + s.length + context) < text.length ↔
      s.start + s.length + context < text.length := by omega
  simp only [excerpt, cutOut, Nat.min_comm _ text.length, hstart, hstop]
  rfl

/-- The mode of a query for terms accepts a text exactly if one of them occurs in its lowercase. -/
theorem accepts_iff_of_terms {m : Mode} {terms : List String} (h : m.terms? = some terms)
    (t : SearchText) :
    m.accepts t = true ↔ ∃ term ∈ terms, term.toList <:+: lowercase t.text.toList := by
  rw [mode_accepts_iff]
  cases m with
  | contains term =>
    obtain rfl := Option.some.inj h
    simp [Mode.Holds]
  | any wanted =>
    obtain rfl := Option.some.inj h
    rfl
  | none => cases h
  | all => cases h
  | pattern p => cases h
  | ids wanted => cases h

/-- What is found has a character at least. -/
theorem IsFoundAt.lt {terms : List String} {text : List Char} {i j : Nat}
    (h : IsFoundAt terms text i j) : i < j := by
  obtain ⟨before, term, after, -, hrange, -⟩ := h
  exact hrange.lt

/-- Of a query for terms that was read, the mode accepts a text and the snippet is not empty in the
same case, namely if one of the terms occurs in the lowercase of the text.  Then the terms are found
at some characters, and the snippet shows these with as many on each side as are asked for.  A
program that counts in bytes and words comes to the same snippet, and nothing stops it, if the
lowercase of the text has no more bytes than a word can count. -/
theorem snippet_ofText {query : String} {terms : List String}
    (h : (ofText query).mode.terms? = some terms) (t : String) :
    ((ofText query).mode.accepts (SearchText.ofString t) = true ↔
      ∃ term ∈ terms, term.toList <:+: lowercase t.toList) ∧
    (∀ n, (ofText query).snippet t n ≠ "" ↔
      ∃ term ∈ terms, term.toList <:+: lowercase t.toList) ∧
    ((∃ term ∈ terms, term.toList <:+: lowercase t.toList) →
      ∃ i j, IsFoundAt terms t.toList i j) ∧
    (∀ i j, IsFoundAt terms t.toList i j →
      ∀ n, (ofText query).snippet t n = String.ofList (cutOut t.toList i j n)) ∧
    ((lower t).utf8ByteSize ≤ Word.maxNat 64 → ∀ n ≤ Word.maxNat 64,
      snippetInWords terms t n = some ((ofText query).snippet t n)) := by
  have hne : ∀ term ∈ terms, term ≠ "" := term_ne_empty_of_ofText h
  refine ⟨accepts_iff_of_terms h _, snippet_ne_empty_iff h hne t, fun hoccurs => ?_,
    fun i j hfound n => ?_, fun hsize n _ => snippetInWords_eq h hsize n⟩
  · obtain ⟨s, hs⟩ := Option.isSome_iff_exists.mp ((isSome_locate_iff h hne t.toList).mpr hoccurs)
    exact ⟨s.start, s.start + s.length, ((locate_eq_some_iff h hne).mp hs).2⟩
  · have hlt := hfound.lt
    have hstop : i + (j - i) = j := by omega
    have hs : (ofText query).locate t.toList = some ⟨i, j - i⟩ :=
      (locate_eq_some_iff h hne).mpr ⟨Nat.sub_pos_of_lt hlt, by rwa [hstop]⟩
    simp only [snippet, hs, excerpt_eq_cutOut, hstop]

/-- The capital I with a dot has a lowercase of two characters, so that the term stands at the third
character of the lowercase and at the second of the text. -/
theorem snippet_ofText_stanbul :
    (ofText "stanbul").mode.terms? = some ["stanbul"] ∧
    IsFoundAt ["stanbul"] "İstanbul trip".toList 1 8 ∧
    (ofText "stanbul").snippet "İstanbul trip" 1 = "İstanbul ..." ∧
    (ofText "stanbul").snippet "" 1 = "" ∧
    snippetInWords ["stanbul"] "İstanbul trip" (Word.maxNat 64) =
      some ((ofText "stanbul").snippet "İstanbul trip" (Word.maxNat 64)) := by
  have hterms : (ofText "stanbul").mode.terms? = some ["stanbul"] := by
    rw [mode_eq_contains (by decide +kernel) (by decide +kernel) (by decide +kernel)
      (by decide +kernel) (by decide +kernel)]
    decide +kernel
  have hfirst : IsFirst "stanbul".toList (lowercase "İstanbul trip".toList) 2 :=
    ⟨by decide +kernel, by decide +kernel, by decide +kernel⟩
  have hfound : IsFoundAt ["stanbul"] "İstanbul trip".toList 1 8 :=
    ⟨[], "stanbul", [], rfl, ⟨by decide, by decide, 2, hfirst, by decide +kernel⟩, nofun, nofun⟩
  obtain ⟨-, -, -, hsnippet, hwords⟩ := snippet_ofText hterms "İstanbul trip"
  obtain ⟨-, hempty, -⟩ := snippet_ofText hterms ""
  refine ⟨hterms, hfound, ?_, ?_, hwords (by decide +kernel) _ (Nat.le_refl _)⟩
  · rw [hsnippet 1 8 hfound 1]
    decide +kernel
  · by_contra hne
    exact absurd ((hempty 1).mp hne) (by decide +kernel)

end ChatArchive.Query
