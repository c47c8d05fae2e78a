import ChatArchive.Proofs.Query.Words
import ChatArchive.Query.Reader

/-!
# Tokens are words

A search for tokens goes through a text character by character.  What it finds are the words of the
text that are tokens: the first token is the first such word, with the text of the words before it
(`firstToken?_spell_of_token`), and their lists are found in order (`list_tokens_spell`).
-/

namespace ChatArchive.Query

open ChatArchive.Text

/-! ## Words that are tokens -/

namespace Word

/-- Is the word `not:`, in any case of letters, with something behind it? -/
def isToken (w : Word) : Bool :=
  (w.letters.take 4).map Char.toLower == "not:".toList && 4 < w.letters.length

/-- What stands behind `not:`. -/
def list (w : Word) : List Char := w.letters.drop 4

end Word

/-- Splits words where they are tokens: none is one, or there is a first one. -/
theorem tokenCases {P : List Word → Prop}
    (plain : ∀ ws, (∀ w ∈ ws, w.isToken = false) → P ws)
    (cut : ∀ before t rest, (∀ w ∈ before, w.isToken = false) → t.isToken = true → P rest →
      P (before ++ t :: rest)) (ws : List Word) : P ws := by
  have hbehind : ∀ before, (∀ w ∈ before, w.isToken = false) → P (before ++ ws) := by
    induction ws with
    | nil =>
      intro before hbefore
      rw [List.append_nil]
      exact plain before hbefore
    | cons w ws ih =>
      intro before hbefore
      cases hw : w.isToken with
      | true => exact cut before w ws hbefore hw (ih [] (fun w hw => absurd hw List.not_mem_nil))
      | false =>
        have hmore := ih (before ++ [w]) (by simpa [or_imp, forall_and, hw] using hbefore)
        rwa [List.append_assoc, List.singleton_append] at hmore
  exact hbehind [] fun w hw => absurd hw List.not_mem_nil

/-! ## Finding tokens -/

/-- The lowercase of an ASCII letter stands 32 places behind it. -/
theorem toNat_toLower (c : Char) :
    c.toLower.toNat = if 65 ≤ c.toNat ∧ c.toNat ≤ 90 then c.toNat + 32 else c.toNat := by
  have hupper : (c.val ≥ 'A'.val ∧ c.val ≤ 'Z'.val) ↔ 65 ≤ c.toNat ∧ c.toNat ≤ 90 := Iff.rfl
  by_cases h : c.val ≥ 'A'.val ∧ c.val ≤ 'Z'.val
  · have hrange := hupper.mp h
    have hlower : c.toLower.toNat = (c.toNat + 32) % 2 ^ 32 :=
      (congrArg Char.toNat (dif_pos h)).trans (UInt32.toNat_add c.val 32)
    rw [hlower, if_pos hrange]
    omega
  · have hlower : c.toLower = c := dif_neg h
    rw [hlower, if_neg (mt hupper.mpr h)]

/-- The text does not go on with a word. -/
def EndsWord (cs : List Char) : Prop := ∀ c ∈ cs.head?, isBlank c = true

/-- Words with gaps in front of them do not go on with a word before them. -/
theorem endsWord_spell {ws : List Word} (hws : Spaced ws) : EndsWord (spell ws) := by
  cases ws with
  | nil => exact fun c hc => absurd hc (by simp)
  | cons w ws =>
    obtain ⟨b, g, hg⟩ := List.exists_cons_of_ne_nil (hws w List.mem_cons_self)
    intro c hc
    obtain rfl : b = c := by simpa [hg] using hc
    exact w.gap_blank b (hg ▸ List.mem_cons_self)

/-- Up to the next blank there is the word. -/
theorem takeWhile_solid {l cs : List Char} (hl : ∀ c ∈ l, isBlank c = false) (hcs : EndsWord cs) :
    (l ++ cs).takeWhile (fun c => !isBlank c) = l := by
  rw [List.takeWhile_append_of_pos (by simpa using hl)]
  cases cs with
  | nil => simp
  | cons c cs => simp [hcs c rfl]

/-- From the next blank on there is what comes behind the word. -/
theorem dropWhile_solid {l cs : List Char} (hl : ∀ c ∈ l, isBlank c = false) (hcs : EndsWord cs) :
    (l ++ cs).dropWhile (fun c => !isBlank c) = cs := by
  rw [List.dropWhile_append_of_pos (by simpa using hl)]
  cases cs with
  | nil => simp
  | cons c cs => simp [hcs c rfl]

/-- A letter in either case. -/
theorem toLower_eq_iff {c d u : Char} (hd : 97 ≤ d.toNat ∧ d.toNat ≤ 122)
    (hu : u.toNat + 32 = d.toNat) : c.toLower = d ↔ (c == d || c == u) = true := by
  simp only [Bool.or_eq_true, beq_iff_eq, ← Char.toNat_inj, toNat_toLower]
  split_ifs <;> omega

/-- A colon has no other case. -/
theorem toLower_eq_colon {c : Char} : c.toLower = ':' ↔ c = ':' := by
  simp only [← Char.toNat_inj, toNat_toLower, Char.reduceToNat]
  split_ifs <;> omega

/-- The four characters that a token begins with. -/
structure IsNot (n o t c : Char) : Prop where
  n : n.toLower = 'n'
  o : o.toLower = 'o'
  t : t.toLower = 't'
  colon : c = ':'

/-- The four characters of "not:" in any case can be tested one by one. -/
theorem isNot_iff {n o t c : Char} : IsNot n o t c ↔ ((n == 'n' || n == 'N') &&
    (o == 'o' || o == 'O') && (t == 't' || t == 'T')) = true ∧ c = ':' := by
  simp only [Bool.and_eq_true, ← toLower_eq_iff (d := 'n') (u := 'N') (by decide) (by decide),
    ← toLower_eq_iff (d := 'o') (u := 'O') (by decide) (by decide),
    ← toLower_eq_iff (d := 't') (u := 'T') (by decide) (by decide)]
  constructor
  · rintro ⟨hn, ho, ht, hc⟩
    exact ⟨⟨⟨hn, ho⟩, ht⟩, hc⟩
  · rintro ⟨⟨⟨hn, ho⟩, ht⟩, hc⟩
    exact ⟨hn, ho, ht, hc⟩

/-- None of these characters is a blank. -/
theorem IsNot.solid {n o t c : Char} (h : IsNot n o t c) :
    ∀ d ∈ [n, o, t, c], isBlank d = false := by
  have hletter : ∀ d u x : Char, isBlank d = false → isBlank u = false →
      (x == d || x == u) = true → isBlank x = false := by
    intro d u x hd hu hx
    rcases Bool.or_eq_true_iff.mp hx with hx | hx
    · rwa [eq_of_beq hx]
    · rwa [eq_of_beq hx]
  obtain ⟨hletters, hc⟩ := isNot_iff.mp h
  simp only [Bool.and_eq_true] at hletters
  obtain ⟨⟨hn, ho⟩, ht⟩ := hletters
  intro d hd
  simp only [List.mem_cons, List.not_mem_nil, or_false] at hd
  rcases hd with rfl | rfl | rfl | rfl
  · exact hletter 'n' 'N' _ (by decide) (by decide) hn
  · exact hletter 'o' 'O' _ (by decide) (by decide) ho
  · exact hletter 't' 'T' _ (by decide) (by decide) ht
  · rw [hc]
    decide

/-- A token is "not:" with a list behind it. -/
theorem isToken_iff {w : Word} : w.isToken = true ↔
    ∃ n o t c, IsNot n o t c ∧ w.letters = n :: o :: t :: c :: w.list ∧ w.list ≠ [] := by
  unfold Word.isToken Word.list
  rcases w.letters with _ | ⟨n, _ | ⟨o, _ | ⟨t, _ | ⟨c, rest⟩⟩⟩⟩
  · simp
  · simp
  · simp
  · simp
  · simp only [List.take_succ_cons, List.take_zero, List.map_cons, List.map_nil, Bool.and_eq_true,
      beq_iff_eq, decide_eq_true_eq, List.length_cons, List.drop_succ_cons, List.drop_zero]
    constructor
    · rintro ⟨hname, hlength⟩
      have hne : rest ≠ [] := List.length_pos_iff.mp (by omega)
      obtain ⟨hn, ho, ht, hc⟩ : n.toLower = 'n' ∧ o.toLower = 'o' ∧ t.toLower = 't' ∧
          c.toLower = ':' := by simpa using hname
      exact ⟨n, o, t, c, ⟨hn, ho, ht, toLower_eq_colon.mp hc⟩, rfl, hne⟩
    · rintro ⟨n', o', t', c', hnot, heq, hne⟩
      obtain ⟨rfl, rfl, rfl, rfl, -⟩ : n = n' ∧ o = o' ∧ t = t' ∧ c = c' ∧ rest = rest := by
        simpa using heq
      refine ⟨?_, by have := List.length_pos_iff.mpr hne; omega⟩
      rw [hnot.n, hnot.o, hnot.t, toLower_eq_colon.mpr hnot.colon]
      rfl

/-- What a token ahead looks like. -/
theorem listAhead?_eq_some_iff {cs list rest : List Char} :
    listAhead? cs = some (list, rest) ↔ ∃ n o t c tail, IsNot n o t c ∧
      cs = n :: o :: t :: c :: tail ∧ list ≠ [] ∧
      tail.takeWhile (fun c => !isBlank c) = list ∧
      tail.dropWhile (fun c => !isBlank c) = rest := by
  unfold listAhead?
  split
  · next n o t tail =>
    constructor
    · intro h
      simp only [Option.ite_none_right_eq_some, Option.ite_none_left_eq_some, Option.some.injEq,
        Prod.mk.injEq] at h
      obtain ⟨hnot, hne, rfl, rfl⟩ := h
      exact ⟨n, o, t, ':', tail, isNot_iff.mpr ⟨hnot, rfl⟩, rfl, by simpa using hne, rfl, rfl⟩
    · rintro ⟨n', o', t', c', tail', hnot, heq, hne, rfl, rfl⟩
      obtain ⟨rfl, rfl, rfl, rfl, rfl⟩ : n = n' ∧ o = o' ∧ t = t' ∧ ':' = c' ∧ tail = tail' := by
        simpa using heq
      rw [if_pos (isNot_iff.mp hnot).1, if_neg (by simpa using hne)]
  · next hform =>
    constructor
    · intro h
      cases h
    · rintro ⟨n, o, t, c, tail, hnot, rfl, -⟩
      exact absurd (by rw [hnot.colon]) (hform n o t tail)

/-- There is a token ahead exactly if the word ahead is one. -/
theorem listAhead?_word (w : Word) {cs : List Char} (hcs : EndsWord cs) :
    listAhead? (w.letters ++ cs) = if w.isToken then some (w.list, cs) else none := by
  split_ifs with hw
  · obtain ⟨n, o, t, c, hnot, hletters, hne⟩ := isToken_iff.mp hw
    have hlist : ∀ d ∈ w.list, isBlank d = false := fun d hd =>
      w.letters_solid d (List.mem_of_mem_drop hd)
    rw [listAhead?_eq_some_iff]
    refine ⟨n, o, t, c, w.list ++ cs, hnot, by rw [hletters]; rfl, hne, ?_, ?_⟩
    · exact takeWhile_solid hlist hcs
    · exact dropWhile_solid hlist hcs
  · rw [Option.eq_none_iff_forall_ne_some]
    rintro ⟨list, rest⟩ hahead
    obtain ⟨n, o, t, c, tail, hnot, heq, hne, rfl, -⟩ := listAhead?_eq_some_iff.mp hahead
    -- the text behind the word begins with a blank, so that the whole token is in the word
    have hprefix : [n, o, t, c] ++ tail.takeWhile (fun c => !isBlank c) = w.letters := by
      rw [← takeWhile_solid w.letters_solid hcs, heq]
      have hsolid : ∀ d ∈ [n, o, t, c], (!isBlank d) = true := by simpa using hnot.solid
      exact (List.takeWhile_append_of_pos hsolid).symm
    have hlist : w.list = tail.takeWhile (fun c => !isBlank c) := by
      rw [Word.list, ← hprefix]
      rfl
    exact hw (isToken_iff.mpr ⟨n, o, t, c, hnot, by rw [hlist, ← hprefix]; rfl, hlist ▸ hne⟩)

/-- No list of exclusions begins with a blank. -/
theorem listAhead?_of_blank {c : Char} (hc : isBlank c = true) (cs : List Char) :
    listAhead? (c :: cs) = none := by
  rw [Option.eq_none_iff_forall_ne_some]
  rintro ⟨list, rest⟩ hahead
  obtain ⟨n, o, t, d, tail, hnot, heq, -⟩ := listAhead?_eq_some_iff.mp hahead
  obtain ⟨rfl, -⟩ := List.cons.inj heq
  simp [hnot.solid c List.mem_cons_self] at hc

/-- A token that is found behind some text. -/
def foundBehind (x : List Char) (found : Token × List Char) : Token × List Char :=
  ({ found.1 with before := x ++ found.1.before }, found.2)

/-- A character that begins no token belongs to the text before the first. -/
theorem firstToken?_cons {atStart : Bool} {c : Char} {cs : List Char}
    (hstart : atStart = true → listAhead? (c :: cs) = none)
    (hblank : isBlank c = true → listAhead? cs = none) :
    firstToken? atStart (c :: cs) = (firstToken? false cs).map (foundBehind [c]) := by
  have hnone : ((if atStart then listAhead? (c :: cs) else none) <|>
      (if isBlank c then listAhead? cs else none)) = none := by
    cases atStart <;> cases hc : isBlank c <;> simp_all
  rw [firstToken?, hnone]
  rfl

/-- Text before text before a token is all of that text. -/
theorem map_foundBehind (x y : List Char) (found : Option (Token × List Char)) :
    (found.map (foundBehind y)).map (foundBehind x) = found.map (foundBehind (x ++ y)) := by
  cases found <;> simp [foundBehind]

/-- No text before a token changes nothing. -/
theorem map_foundBehind_nil (found : Option (Token × List Char)) :
    found.map (foundBehind []) = found := by
  cases found <;> rfl

/-- No token begins within a word. -/
theorem firstToken?_solid {l : List Char} (hl : ∀ c ∈ l, isBlank c = false) (cs : List Char) :
    firstToken? false (l ++ cs) = (firstToken? false cs).map (foundBehind l) := by
  induction l with
  | nil => exact (map_foundBehind_nil _).symm
  | cons c l ih =>
    obtain ⟨hc, hl⟩ := List.forall_mem_cons.mp hl
    rw [List.cons_append, firstToken?_cons (by simp) (by simp [hc]), ih hl, map_foundBehind]
    rfl

/-- A token begins right before the word behind a gap or not before that word ends. -/
theorem firstToken?_gap {gap : List Char} (hblank : ∀ c ∈ gap, isBlank c = true) (hgap : gap ≠ [])
    (w : Word) {cs : List Char} (hcs : EndsWord cs) :
    firstToken? false (gap ++ w.letters ++ cs) =
      if w.isToken then some (⟨gap.dropLast, w.list⟩, cs)
      else (firstToken? false cs).map (foundBehind (gap ++ w.letters)) := by
  have hahead := listAhead?_word w hcs
  induction gap with
  | nil => exact absurd rfl hgap
  | cons b gap ih =>
    obtain ⟨hb, hblank⟩ := List.forall_mem_cons.mp hblank
    cases gap with
    | nil =>
      split_ifs at hahead ⊢ with hw
      · simp [firstToken?, hb, hahead]
      · rw [List.cons_append, List.nil_append, List.cons_append,
          firstToken?_cons (by simp) fun _ => hahead, firstToken?_solid w.letters_solid,
          map_foundBehind]
        rfl
    | cons b' gap =>
      have hnext : listAhead? (b' :: gap ++ w.letters ++ cs) = none :=
        listAhead?_of_blank (hblank b' List.mem_cons_self) _
      rw [List.cons_append, List.cons_append, firstToken?_cons (by simp) fun _ => hnext,
        ih hblank (List.cons_ne_nil b' gap)]
      split_ifs
      · rfl
      · rw [map_foundBehind]
        rfl

/-- Where no word is a token there is none. -/
theorem firstToken?_spell_of_plain {ws : List Word} (hws : Spaced ws)
    (hplain : ∀ w ∈ ws, w.isToken = false) : firstToken? false (spell ws) = none := by
  induction ws with
  | nil => rfl
  | cons w ws ih =>
    obtain ⟨hw, hplain⟩ := List.forall_mem_cons.mp hplain
    rw [spell_cons, firstToken?_gap w.gap_blank (hws w List.mem_cons_self) w
      (endsWord_spell hws.tail), hw,
      ih hws.tail hplain]
    rfl

/-- The first token that is found is the first word that is a token. -/
theorem firstToken?_spell_of_token {before rest : List Word} {t : Word}
    (hws : Spaced (before ++ t :: rest)) (hbefore : ∀ w ∈ before, w.isToken = false)
    (ht : t.isToken = true) : firstToken? false (spell (before ++ t :: rest)) =
      some (⟨spell before ++ t.gap.dropLast, t.list⟩, spell rest) := by
  induction before with
  | nil =>
    rw [List.nil_append, spell_cons, firstToken?_gap t.gap_blank
      (hws t List.mem_cons_self) t (endsWord_spell (Spaced.tail hws)), if_pos ht]
    rfl
  | cons w before ih =>
    obtain ⟨hw, hbefore⟩ := List.forall_mem_cons.mp hbefore
    have htail : Spaced (before ++ t :: rest) := Spaced.tail hws
    rw [List.cons_append, spell_cons, firstToken?_gap w.gap_blank
      (hws w List.mem_cons_self) w (endsWord_spell htail), hw, ih htail hbefore]
    simp [foundBehind]

/-! ## All tokens -/

/-- Without a first token there are none. -/
theorem tokens_of_none {atStart : Bool} {cs : List Char} (h : firstToken? atStart cs = none) :
    tokens atStart cs = ([], cs) := by
  rw [tokens]
  split
  · rfl
  · next hsome => cases h.symm.trans hsome

/-- Behind the first token the others are looked for. -/
theorem tokens_of_some {atStart : Bool} {cs rest : List Char} {t : Token}
    (h : firstToken? atStart cs = some (t, rest)) :
    tokens atStart cs = (t :: (tokens false rest).1, (tokens false rest).2) := by
  rw [tokens]
  split
  · next hnone => cases h.symm.trans hnone
  · next t' rest' hsome =>
    obtain ⟨rfl, rfl⟩ := Prod.mk.inj (Option.some.inj (h.symm.trans hsome))
    rfl

/-- The lists of the tokens that are found are those of the words that are tokens. -/
theorem list_tokens_spell {ws : List Word} (hws : Spaced ws) :
    (tokens false (spell ws)).1.map Token.list = (ws.filter Word.isToken).map Word.list := by
  induction ws using tokenCases with
  | plain ws hplain =>
    have hnone : ws.filter Word.isToken = [] := by simpa [List.filter_eq_nil_iff] using hplain
    rw [tokens_of_none (firstToken?_spell_of_plain hws hplain), hnone]
    rfl
  | cut before t rest hbefore ht ih =>
    have hnone : before.filter Word.isToken = [] := by
      simpa [List.filter_eq_nil_iff] using hbefore
    have hrest : Spaced rest := fun w hw => hws w (by simp [hw])
    rw [tokens_of_some (firstToken?_spell_of_token hws hbefore ht), List.map_cons, ih hrest,
      List.filter_append, hnone, List.nil_append, List.filter_cons_of_pos ht, List.map_cons]

end ChatArchive.Query
