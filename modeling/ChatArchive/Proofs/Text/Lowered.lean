import ChatArchive.Proofs.Text.Sigma
import ChatArchive.Proofs.Unicode.CaseMap

/-!
# Texts in lowercase

The lowercase of a text is its own lowercase (`lowercase_lowercase`): every character of it is one
that the lowercase keeps, and none is a capital sigma, whose lowercase depends on where it stands
(`isLowered_of_mem_lowercase`).

Blanks, commas and bars are in the lowercase of a text only where they are in the text
(`mem_of_mem_lowercase`).  So the lowercase of a trimmed text is trimmed (`trim_lowercase`), and
that of a piece between marks is still one piece.
-/

namespace ChatArchive.Text

open ChatArchive.Unicode

/-! ## Single characters -/

/-- Of the characters of one byte only the capitals are mapped, each to its small letter. -/
theorem mapRuns_ascii : ∀ n < 0x80,
    mapRuns lowercaseRuns n = if 0x41 ≤ n ∧ n ≤ 0x5A then n + 32 else n := by
  decide +kernel

/-- The runs say the lowercase of every character whose lowercase is a single one. -/
theorem lowerChar_eq {c : Char} (hc : c ≠ '\u0130') :
    lowerChar c = [Char.ofNat (mapRuns lowercaseRuns c.toNat)] := by
  have hcapital : 'A' ≤ c ∧ c ≤ 'Z' ↔ 0x41 ≤ c.toNat ∧ c.toNat ≤ 0x5A := Iff.rfl
  unfold lowerChar
  by_cases hascii : c.toNat < 0x80
  · rw [if_pos hascii, mapRuns_ascii _ hascii]
    by_cases hrange : 0x41 ≤ c.toNat ∧ c.toNat ≤ 0x5A
    · rw [if_pos (hcapital.mpr hrange), if_pos hrange]
    · rw [if_neg (mt hcapital.mp hrange), if_neg hrange, Char.ofNat_toNat]
  · rw [if_neg hascii, if_neg hc]

/-- A character that the lowercase keeps wherever it stands. -/
structure IsLowered (c : Char) : Prop where
  lowerChar_eq : lowerChar c = [c]
  ne_sigma : c ≠ 'Σ'

/-- The lowercase of a character whose lowercase is a single one: the lowercase keeps it, and it is
none that is kept apart unless the character was. -/
theorem lowerChar_cases {c : Char} (hc : c ≠ '\u0130') : ∃ d, lowerChar c = [d] ∧ IsLowered d ∧
    (CharSet.Holds keptApart d.toNat → d = c) := by
  obtain ⟨d, hd, hvalue⟩ : ∃ d, lowerChar c = [d] ∧ d.toNat = mapRuns lowercaseRuns c.toNat := by
    have hvalid : (mapRuns lowercaseRuns c.toNat).isValidChar := isValidChar_mapRuns c.valid
    refine ⟨_, lowerChar_eq hc, ?_⟩
    rw [Char.ofNat, dif_pos hvalid]
    exact UInt32.toNat_ofNatLT ..
  have hsame : d.toNat = c.toNat → d = c := Char.toNat_inj.mp
  have hkept : CharSet.Holds keptApart d.toNat → d = c := fun hholds =>
    hsame (hvalue.trans (eq_of_holds_mapRuns (hvalue ▸ hholds)))
  have hfixed : mapRuns lowercaseRuns d.toNat = d.toNat := by rw [hvalue, mapRuns_mapRuns]
  refine ⟨d, hd, ⟨?_, ?_⟩, hkept⟩
  · have hdot : d ≠ '\u0130' := by
      rintro rfl
      exact hc (hkept (by decide)).symm
    rw [lowerChar_eq hdot, hfixed, Char.ofNat_toNat]
  · rintro rfl
    exact absurd hfixed (by decide +kernel)

/-- The capital with a dot becomes two characters. -/
theorem lowerChar_dot : lowerChar '\u0130' = ['i', '\u0307'] := rfl

/-- What a character is mapped to is in lowercase. -/
theorem isLowered_of_mem_lowerChar {c d : Char} (h : d ∈ lowerChar c) : IsLowered d := by
  by_cases hc : c = '\u0130'
  · rw [hc, lowerChar_dot, List.mem_pair] at h
    rcases h with rfl | rfl
    · exact ⟨by decide, by decide⟩
    · exact ⟨by decide +kernel, by decide⟩
  · obtain ⟨e, heq, he, -⟩ := lowerChar_cases hc
    rw [heq, List.mem_singleton] at h
    exact h ▸ he

/-- A character that is kept apart is in its own lowercase only. -/
theorem eq_of_mem_lowerChar {c d : Char} (h : d ∈ lowerChar c)
    (hd : CharSet.Holds keptApart d.toNat) : d = c := by
  by_cases hc : c = '\u0130'
  · rw [hc, lowerChar_dot, List.mem_pair] at h
    rcases h with rfl | rfl
    · exact absurd hd (by decide)
    · exact absurd hd (by decide)
  · obtain ⟨e, heq, -, he⟩ := lowerChar_cases hc
    rw [heq, List.mem_singleton] at h
    exact h ▸ he (h ▸ hd)

/-! ## Characters in context -/

section

variable {before after : List Char} {c d : Char} (h : d ∈ lowerIn before c after)
include h

/-- Only a sigma has another lowercase in its context, and that is one of two small sigmas. -/
theorem mem_lowerIn_cases : d ∈ lowerChar c ∨ d = 'ς' ∨ d = 'σ' := by
  unfold lowerIn at h
  split_ifs at h
  · exact .inr (.inl (List.mem_singleton.mp h))
  · exact .inr (.inr (List.mem_singleton.mp h))
  · exact .inl h

/-- So it is in its context. -/
theorem isLowered_of_mem_lowerIn : IsLowered d := by
  rcases mem_lowerIn_cases h with h | rfl | rfl
  · exact isLowered_of_mem_lowerChar h
  · exact ⟨by decide +kernel, by decide⟩
  · exact ⟨by decide +kernel, by decide⟩

/-- Only a character itself is mapped to one that is kept apart. -/
theorem eq_of_mem_lowerIn (hd : CharSet.Holds keptApart d.toNat) : d = c := by
  rcases mem_lowerIn_cases h with h | rfl | rfl
  · exact eq_of_mem_lowerChar h hd
  · exact absurd hd (by decide)
  · exact absurd hd (by decide)

end

/-! ## Texts -/

/-- A character of the lowercase is in the share of a character of the text. -/
theorem exists_of_mem_lowercaseFrom {before cs : List Char} {d : Char}
    (h : d ∈ lowercaseFrom before [] cs) :
    ∃ c ∈ cs, ∃ before' after, d ∈ lowerIn before' c after := by
  induction cs generalizing before with
  | nil => exact absurd h List.not_mem_nil
  | cons c cs ih =>
    rw [lowercaseFrom_cons] at h
    rcases List.mem_append.mp h with h | h
    · exact ⟨c, List.mem_cons_self, before, cs, h⟩
    · obtain ⟨e, he, hshare⟩ := ih h
      exact ⟨e, List.mem_cons_of_mem c he, hshare⟩

/-- The lowercase of a text has characters in lowercase only. -/
theorem isLowered_of_mem_lowercase {cs : List Char} {d : Char} (h : d ∈ lowercase cs) :
    IsLowered d := by
  obtain ⟨c, -, before, after, hd⟩ := exists_of_mem_lowercaseFrom h
  exact isLowered_of_mem_lowerIn hd

/-- The lowercase has only those of the characters kept apart that the text has. -/
theorem mem_of_mem_lowercase {cs : List Char} {d : Char} (h : d ∈ lowercase cs)
    (hd : CharSet.Holds keptApart d.toNat) : d ∈ cs := by
  obtain ⟨c, hc, before, after, hshare⟩ := exists_of_mem_lowercaseFrom h
  rwa [eq_of_mem_lowerIn hshare hd]

/-- A text of these is its own lowercase. -/
theorem lowercase_of_isLowered {cs : List Char} (h : ∀ c ∈ cs, IsLowered c) :
    lowercase cs = cs := by
  have hfrom : ∀ before, lowercaseFrom before [] cs = cs := by
    induction cs with
    | nil => exact fun _ => rfl
    | cons c cs ih =>
      obtain ⟨hc, hcs⟩ := List.forall_mem_cons.mp h
      intro before
      rw [lowercaseFrom_cons, ih hcs, lowerIn, if_neg hc.ne_sigma, hc.lowerChar_eq]
      rfl
  exact hfrom []

/-- The lowercase of a text is its own lowercase. -/
theorem lowercase_lowercase (cs : List Char) : lowercase (lowercase cs) = lowercase cs :=
  lowercase_of_isLowered fun _ => isLowered_of_mem_lowercase

/-! ## Trimmed texts -/

/-- Blanks are kept apart. -/
theorem holds_keptApart_of_blank {c : Char} (hc : isBlank c = true) :
    CharSet.Holds keptApart c.toNat := by
  unfold keptApart
  simp only [CharSet.holds_cons]
  exact .inr (.inr (.inr (.inr (isBlank_iff_holds.mp hc))))

/-- No character becomes blank by its mapping. -/
theorem not_blank_of_mem_lowerIn {before after : List Char} {c d : Char}
    (h : d ∈ lowerIn before c after) (hc : isBlank c = false) : isBlank d = false := by
  refine eq_false_of_ne_true fun hd => ?_
  rw [eq_of_mem_lowerIn h (holds_keptApart_of_blank hd), hc] at hd
  cases hd

/-- The lowercase of a text begins with the share of its first character, and ends with that of its
last. -/
theorem trim_lowercase {cs : List Char} (h : trim cs = cs) :
    trim (lowercase cs) = lowercase cs := by
  have hhead := not_blank_of_head?_trim (x := cs)
  have hlast := not_blank_of_getLast?_trim (x := cs)
  rw [h] at hhead hlast
  have hne : ∀ before c after, lowerIn before c after ≠ [] := by
    intro before c after hnil
    have hlength := length_lowerIn before after c
    rw [hnil] at hlength
    exact lowerChar_ne_nil c (List.eq_nil_of_length_eq_zero hlength.symm)
  refine trim_of_not_blank ?_ ?_
  · intro d hd
    cases cs with
    | nil => exact absurd hd (by simp [lowercase, lowercaseFrom])
    | cons c cs =>
      rw [lowercase, lowercaseFrom_cons, List.head?_append_of_ne_nil _ (hne _ _ _)] at hd
      exact not_blank_of_mem_lowerIn (List.mem_of_mem_head? hd) (hhead c rfl)
  · intro d hd
    rcases List.eq_nil_or_concat cs with rfl | ⟨xs, c, rfl⟩
    · exact absurd hd (by simp [lowercase, lowercaseFrom])
    · rw [List.concat_eq_append] at hd hlast
      rw [lowercase, lowercaseFrom_append, lowercaseFrom_cons, lowercaseFrom, List.reverse_nil,
        List.append_nil, List.getLast?_append_of_ne_nil _ (hne _ _ _)] at hd
      exact not_blank_of_mem_lowerIn (List.mem_of_getLast? hd) (hlast c (by simp))

end ChatArchive.Text
