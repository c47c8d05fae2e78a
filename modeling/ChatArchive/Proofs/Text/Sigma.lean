import ChatArchive.Proofs.Text.Separator

/-!
# Sigmas in context

A part of a text has in the lowercase of the text the share `lowercaseWithin`.  This share is the
lowercase of the part alone exactly if every sigma ends a word in both of them or in neither
(`prefix_drop_lowercase_iff`).  A sigma looks past the ends of the part only where the part has
nothing on that side that would stop it, so that the share can differ only at the ends
(`keepsSigmas_of_inner`), and not there where the part stands between separators
(`keepsSigmas_of_stops`).
-/

namespace ChatArchive.Text

open ChatArchive.Unicode

/-! ## Shares of parts -/

/-- The lowercase of a part of a text in that text.  `before` is the text before the part, the
nearest character first, and `after` the text after it. -/
def lowercaseWithin (before after : List Char) : List Char → List Char
  | [] => []
  | c :: cs => lowerIn before c (cs ++ after) ++ lowercaseWithin (c :: before) after cs

/-- The lowercase of a text is that of its parts, each in the context of the other. -/
theorem lowercaseFrom_append (before xs ys : List Char) :
    lowercaseFrom before [] (xs ++ ys) =
      lowercaseWithin before ys xs ++ lowercaseFrom (xs.reverse ++ before) [] ys := by
  induction xs generalizing before with
  | nil => rfl
  | cons c xs ih =>
    rw [List.cons_append, lowercaseFrom_cons, ih, lowercaseWithin, List.append_assoc]
    simp

/-- The lowercase of a text, with the share of a part in its place. -/
theorem lowercase_append_append (before xs after : List Char) :
    lowercase (before ++ xs ++ after) = lowercaseWithin [] (xs ++ after) before ++
      (lowercaseWithin before.reverse after xs ++
        lowercaseFrom (xs.reverse ++ before.reverse) [] after) := by
  rw [lowercase, List.append_assoc, lowercaseFrom_append, lowercaseFrom_append, List.append_nil]

/-- Wherever a part stands, its share has the same length. -/
theorem length_lowercaseWithin (before after cs : List Char) :
    (lowercaseWithin before after cs).length = (cs.flatMap lowerChar).length := by
  induction cs generalizing before with
  | nil => rfl
  | cons c cs ih =>
    rw [lowercaseWithin, List.length_append, ih, length_lowerIn, List.flatMap_cons,
      List.length_append]

/-- The context does not change the length. -/
theorem length_lowercaseWithin_eq (before after cs : List Char) :
    (lowercaseWithin before after cs).length = (lowercase cs).length := by
  rw [length_lowercaseWithin, lowercase, length_lowercaseFrom]

/-! ## Sigmas that keep their form -/

/-- Every sigma of the part `xs` ends a word in the text `before ++ xs ++ after` exactly if it does
so in the part alone. -/
def KeepsSigmas (before xs after : List Char) : Prop :=
  ∀ u v, xs = u ++ 'Σ' :: v →
    isWordFinal (u.reverse ++ before.reverse) (v ++ after) = isWordFinal u.reverse v

/-- Only a sigma has a share that depends on its context. -/
theorem lowerIn_eq_iff {before after before' after' : List Char} {c : Char} :
    lowerIn before c after = lowerIn before' c after' ↔
      (c = 'Σ' → isWordFinal before after = isWordFinal before' after') := by
  unfold lowerIn
  by_cases hc : c = 'Σ'
  · rw [if_pos hc, if_pos hc]
    cases isWordFinal before after <;> cases isWordFinal before' after' <;> simp [hc]
  · simp [hc]

/-- The share of a part is its lowercase alone if its sigmas keep their form, and only then;
`read` is the front of the part that was gone through. -/
theorem lowercaseWithin_eq_iff (read before after cs : List Char) :
    lowercaseWithin (read ++ before) after cs = lowercaseFrom read [] cs ↔
      ∀ u v, cs = u ++ 'Σ' :: v →
        isWordFinal (u.reverse ++ (read ++ before)) (v ++ after) =
          isWordFinal (u.reverse ++ read) v := by
  induction cs generalizing read with
  | nil => simp [lowercaseWithin, lowercaseFrom]
  | cons c cs ih =>
    have hlength : (lowerIn (read ++ before) c (cs ++ after)).length =
        (lowerIn read c cs).length := by rw [length_lowerIn, length_lowerIn]
    have hshares : lowercaseWithin (read ++ before) after (c :: cs) =
        lowercaseFrom read [] (c :: cs) ↔
          lowerIn (read ++ before) c (cs ++ after) = lowerIn read c cs ∧
            lowercaseWithin (c :: read ++ before) after cs = lowercaseFrom (c :: read) [] cs := by
      rw [lowercaseWithin, lowercaseFrom_cons]
      refine ⟨fun h => List.append_inj h hlength, ?_⟩
      rintro ⟨hfirst, hrest⟩
      rw [hfirst, ← hrest, List.cons_append]
    rw [hshares, lowerIn_eq_iff, ih]
    constructor
    · rintro ⟨hfirst, hrest⟩ u v hsplit
      -- the sigma is the first character, or stands behind it
      cases u with
      | nil =>
        obtain ⟨rfl, rfl⟩ := List.cons.inj hsplit
        exact hfirst rfl
      | cons d u =>
        obtain ⟨rfl, rfl⟩ := List.cons.inj hsplit
        simpa using hrest u v rfl
    · intro hall
      refine ⟨?_, ?_⟩
      · rintro rfl
        exact hall [] cs rfl
      · rintro u v rfl
        simpa using hall (c :: u) v rfl

/-- The lowercase of a text in a context is its own if all its sigmas take the same form. -/
theorem lowercaseWithin_eq_lowercase_iff (before xs after : List Char) :
    lowercaseWithin before.reverse after xs = lowercase xs ↔ KeepsSigmas before xs after := by
  simpa [lowercase, KeepsSigmas] using lowercaseWithin_eq_iff [] before.reverse after xs

/-- The lowercase of a part stands at its place in the lowercase of the text exactly if the sigmas
of the part keep their form. -/
theorem prefix_drop_lowercase_iff (before xs after : List Char) :
    lowercase xs <+: (lowercase (before ++ xs ++ after)).drop (lowercase before).length ↔
      KeepsSigmas before xs after := by
  rw [← lowercaseWithin_eq_lowercase_iff, lowercase_append_append,
    ← length_lowercaseWithin_eq [] (xs ++ after) before, List.drop_left]
  constructor
  · intro hprefix
    refine (List.prefix_of_prefix_length_le hprefix (List.prefix_append _ _) ?_).eq_of_length ?_
      |>.symm
    · exact (length_lowercaseWithin_eq ..).ge
    · exact (length_lowercaseWithin_eq ..).symm
  · intro hshare
    rw [hshare]
    exact List.prefix_append _ _

/-- A part whose sigmas keep their form has its lowercase in that of the text. -/
theorem KeepsSigmas.infix {before xs after : List Char} (h : KeepsSigmas before xs after) :
    lowercase xs <:+: lowercase (before ++ xs ++ after) :=
  ((prefix_drop_lowercase_iff before xs after).mpr h).isInfix.trans
    (List.drop_suffix _ _).isInfix

/-! ## Where sigmas keep their form -/

/-- A sigma does not look past a character that it does not ignore. -/
theorem reachesCased_append_of_exists {cs : List Char}
    (hcs : ∃ c ∈ cs, caseIgnorableSet.contains c = false) (more : List Char) :
    reachesCased (cs ++ more) = reachesCased cs := by
  obtain ⟨c, hc, hseen⟩ := hcs
  have hne : cs.dropWhile caseIgnorableSet.contains ≠ [] := by
    rw [Ne, List.dropWhile_eq_nil_iff]
    intro hall
    rw [hall c hc] at hseen
    cases hseen
  unfold reachesCased
  rw [List.dropWhile_append, if_neg (by simpa using hne)]
  cases hdrop : cs.dropWhile caseIgnorableSet.contains with
  | nil => exact absurd hdrop hne
  | cons d rest => rfl

/-- Sigmas inside a part keep their form: those with characters on both sides that they do not
ignore. -/
theorem keepsSigmas_of_inner {xs : List Char}
    (hxs : ∀ u v, xs = u ++ 'Σ' :: v →
      (∃ c ∈ u, caseIgnorableSet.contains c = false) ∧
        ∃ c ∈ v, caseIgnorableSet.contains c = false)
    (before after : List Char) : KeepsSigmas before xs after := by
  intro u v hsplit
  obtain ⟨⟨c, hc, hleft⟩, hright⟩ := hxs u v hsplit
  rw [isWordFinal, isWordFinal, reachesCased_append_of_exists hright,
    reachesCased_append_of_exists ⟨c, List.mem_reverse.mpr hc, hleft⟩]

/-- Sigmas keep their form in a part that stands between separators, or at the ends of the
text. -/
theorem keepsSigmas_of_stops {before after : List Char} (hbefore : Stops before.reverse)
    (hafter : Stops after) (xs : List Char) : KeepsSigmas before xs after := by
  intro u v _
  rw [isWordFinal, isWordFinal, reachesCased_append hbefore, reachesCased_append hafter]

/-- Blanks stop the search for a cased letter. -/
theorem stops_of_blank {cs : List Char} (hcs : ∀ c ∈ cs, isBlank c = true) : Stops cs :=
  fun c hc => .inr (hcs c (List.mem_of_mem_head? hc))

/-- A text is its trimmed form between blanks. -/
theorem exists_eq_append_trim (xs : List Char) : ∃ lead trail,
    (∀ c ∈ lead, isBlank c = true) ∧ (∀ c ∈ trail, isBlank c = true) ∧
      xs = lead ++ trim xs ++ trail := by
  have hstart : xs.takeWhile isBlank ++ trimStart xs = xs := List.takeWhile_append_dropWhile
  have hend : trimEnd (trimStart xs) ++ (trimStart xs).rtakeWhile isBlank = trimStart xs :=
    List.rdropWhile_append_rtakeWhile ..
  refine ⟨xs.takeWhile isBlank, (trimStart xs).rtakeWhile isBlank,
    fun c hc => List.mem_takeWhile_imp hc, fun c hc => List.mem_rtakeWhile_imp hc, ?_⟩
  rw [trim, List.append_assoc, hend, hstart]

/-- What a text has around its trimmed form does not matter to sigmas. -/
theorem KeepsSigmas.exists_trim {before xs after : List Char} (h : KeepsSigmas before xs after) :
    ∃ before' after', before ++ xs ++ after = before' ++ trim xs ++ after' ∧
      KeepsSigmas before' (trim xs) after' := by
  obtain ⟨lead, trail, hlead, htrail, hxs⟩ := exists_eq_append_trim xs
  refine ⟨before ++ lead, trail ++ after, ?_, ?_⟩
  · conv_lhs => rw [hxs]
    simp only [List.append_assoc]
  · intro u v hsplit
    have hstops : Stops lead.reverse := stops_of_blank fun c hc => hlead c (List.mem_reverse.mp hc)
    have hinner := keepsSigmas_of_stops hstops (stops_of_blank htrail) (trim xs) u v hsplit
    have houter := h (lead ++ u) (v ++ trail) (by
      conv_lhs => rw [hxs, hsplit]
      simp only [List.append_assoc, List.cons_append])
    simp only [List.reverse_append, List.append_assoc] at houter ⊢
    rw [houter, hinner]

/-! ## Greek capitals -/

/-- The code points of the Greek capitals without accents. -/
def greekCapitals : List (Nat × Nat) := [(0x391, 0x3A1), (0x3A3, 0x3A9)]

/-- Greek capitals have letter case. -/
theorem cased_of_greekCapital {c : Char} (hc : CharSet.Holds greekCapitals c.toNat) :
    casedSet.contains c = true := by
  obtain ⟨line, hline, hsmall, hlarge⟩ : ∃ line : String,
      Category.uppercaseLetter.table[4]? = some line ∧
        (0x391, 0x3A1) ∈ CharSet.rangesOfText line.toList ∧
          (0x3A3, 0x3AB) ∈ CharSet.rangesOfText line.toList := ⟨_, rfl, by decide +kernel⟩
  have hletter : Category.uppercaseLetter.members.contains c = true := by
    refine (CharSet.contains_ofText _ c).mpr ⟨line, List.mem_of_getElem? hline, ?_⟩
    simp only [greekCapitals, CharSet.holds_cons, CharSet.not_holds_nil, or_false] at hc
    rcases hc with hc | hc
    · exact ⟨_, hsmall, hc⟩
    · exact ⟨_, hlarge, hc.1, Nat.le_trans hc.2 (by decide)⟩
  rw [casedSet, contains_members]
  simp [Property.cased, hletter, not_contains_ofText apart_nil hc]

/-- A sigma does not look past a Greek capital. -/
theorem not_caseIgnorable_of_greekCapital {c : Char}
    (hc : CharSet.Holds greekCapitals c.toNat) : caseIgnorableSet.contains c = false := by
  have hadded : Apart greekCapitals Property.caseIgnorable.added := by
    unfold Property.caseIgnorable
    repeat' refine apart_cons (by decide +kernel) ?_
    exact apart_nil
  refine not_contains_members (fun k hk => ?_) hadded hc
  simp only [Property.caseIgnorable, List.mem_cons, List.not_mem_nil, or_false] at hk
  rcases hk with rfl | rfl | rfl | rfl | rfl
  all_goals
    unfold Category.table
    repeat' refine apart_cons (by decide +kernel) ?_
    exact apart_nil

/-- A Greek capital is found at once. -/
theorem reachesCased_of_greekCapital {c : Char} (hc : CharSet.Holds greekCapitals c.toNat)
    (cs : List Char) : reachesCased (c :: cs) = true := by
  have hseen := not_caseIgnorable_of_greekCapital hc
  rw [reachesCased, List.dropWhile_cons_of_neg (by simp [hseen])]
  exact cased_of_greekCapital hc

end ChatArchive.Text
