import ChatArchive.Toml.Quoted
import Mathlib.Tactic.SplitIfs

/-!
# Reading quoted strings

A string is read back from the form in which it is written (`readQuoted_quoted`), whichever of the
four that is and whatever the string holds.

The forms in double quotes can hold any text, since what cannot stand in them as it is is escaped
(`escapeChar_cases`); in the long one up to two quotes may stand next to each other, also just in
front of the three that close it.  The forms in single quotes are only taken for texts that can
stand in them as they are, which is read off the longest run of quotes (`le_longestRun`).
-/

namespace ChatArchive.Toml

/-- The text does not begin with a quote. -/
def NoQuoteAhead (cs : List Char) : Prop := ∀ c ∈ cs.head?, c ≠ '"' ∧ c ≠ '\''

/-! ## Runs of quotes -/

section

variable (mark : Char)

/-- The longest run so far, and the run that is going on, after one more character. -/
def countRun (p : Nat × Nat) (c : Char) : Nat × Nat :=
  if c = mark then (max p.1 (p.2 + 1), p.2 + 1) else (p.1, 0)

/-- The longest run of a mark is counted from the left. -/
theorem longestRun_eq (cs : List Char) : longestRun mark cs = (cs.foldl (countRun mark) (0, 0)).1 :=
  rfl

/-- The count never falls. -/
theorem fst_le_foldl_countRun (p : Nat × Nat) (cs : List Char) :
    p.1 ≤ (cs.foldl (countRun mark) p).1 := by
  induction cs generalizing p with
  | nil => exact Nat.le_refl _
  | cons c cs ih =>
    refine Nat.le_trans ?_ (ih _)
    unfold countRun
    split
    · exact Nat.le_max_left _ _
    · exact Nat.le_refl _

/-- A run of the mark is counted in full, and then the longest is no shorter. -/
theorem le_foldl_countRun_replicate (p : Nat × Nat) (k : Nat) :
    k ≤ ((List.replicate k mark).foldl (countRun mark) p).2 ∧
      (0 < k → ((List.replicate k mark).foldl (countRun mark) p).2 ≤
        ((List.replicate k mark).foldl (countRun mark) p).1) := by
  induction k with
  | zero => exact ⟨Nat.zero_le _, fun h => absurd h (Nat.lt_irrefl 0)⟩
  | succ k ih =>
    rw [List.replicate_succ', List.foldl_append, List.foldl_cons, List.foldl_nil, countRun,
      if_pos rfl]
    exact ⟨Nat.succ_le_succ ih.1, fun _ => Nat.le_max_right _ _⟩

/-- A run of quotes is not longer than the longest. -/
theorem le_longestRun {k : Nat} {cs : List Char} (h : List.replicate k mark <:+: cs) :
    k ≤ longestRun mark cs := by
  rcases Nat.eq_zero_or_pos k with rfl | hk
  · exact Nat.zero_le _
  · obtain ⟨before, after, rfl⟩ := h
    rw [longestRun_eq, List.foldl_append, List.foldl_append]
    obtain ⟨hlength, hbest⟩ :=
      le_foldl_countRun_replicate mark (before.foldl (countRun mark) (0, 0)) k
    exact Nat.le_trans (Nat.le_trans hlength (hbest hk)) (fst_le_foldl_countRun mark _ after)

end

/-! ## Escapes -/

/-- A digit that is written is read back. -/
theorem hexDigit?_hexCapital : ∀ n < 16,
    Unicode.CharSet.hexDigit? (Text.hexCapital n) = some n := by decide

/-- A character is read from its code in four digits. -/
theorem readCode_four {n : Nat} (h : n < 65536) (hvalid : n.isValidChar) (rest : List Char) :
    readCode 4 ([4096, 256, 16, 1].map (fun place => Text.hexCapital (n / place % 16)) ++ rest) =
      some (Char.ofNat n, rest) := by
  have hdigit : ∀ place, Unicode.CharSet.hexDigit? (Text.hexCapital (n / place % 16)) =
      some (n / place % 16) := fun place => hexDigit?_hexCapital _ (Nat.mod_lt _ (by decide))
  have hvalue : (((0 * 16 + n / 4096 % 16) * 16 + n / 256 % 16) * 16 + n / 16 % 16) * 16 +
      n / 1 % 16 = n := by omega
  simp only [readCode, List.map_cons, List.map_nil, List.cons_append, List.nil_append,
    List.take_succ_cons, List.take_zero, List.drop_succ_cons, List.drop_zero, List.length_cons,
    List.length_nil, List.foldlM_cons, List.foldlM_nil, hdigit, Option.map_some, bind, pure,
    Option.bind_some, hvalue]
  simp [hvalid]

/-- Only characters of one byte need a code. -/
theorem lt_of_needsCode {c : Char} (h : needsCode c = true) : c.toNat < 0x80 := by
  rcases Bool.or_eq_true_iff.mp h with hlow | hdel
  · have hlt : c.toNat < 0x20 := by
      simpa using (Bool.and_eq_true_iff.mp (Bool.and_eq_true_iff.mp hlow).1).1
    omega
  · rw [eq_of_beq hdel]
    decide

/-- What needs none may stand in a text as it is, a line break apart. -/
theorem isPlain_of_not_needsCode {c : Char} (h : needsCode c = false) (hn : c ≠ '\n') :
    isPlain c = true := by
  by_cases ht : c = '\t'
  · rw [ht]
    rfl
  · simp only [needsCode, Bool.or_eq_false_iff] at h
    have hlow : 0x20 ≤ c.toNat := by simpa [ht, hn] using h.1
    have hdel : (c != '\x7F') = true := by rw [bne, h.2]; rfl
    simp [isPlain, hlow, hdel]

/-- A character other than a double quote is written by an escape, or as it is. -/
theorem escapeChar_cases (long : Bool) {c : Char} (hquote : c ≠ '"') :
    (∃ escape, escapeChar long c = '\\' :: escape ∧
      ∀ rest, readEscape (escape ++ rest) = some (c, rest)) ∨
    escapeChar long c = [c] ∧ c ≠ '\\' ∧
      (isPlain c = true ∧ c ≠ '\n' ∨ long = true ∧ c = '\n') := by
  unfold escapeChar
  split_ifs with hb ht hn hlong hf hr hslash hcode
  · exact .inl ⟨_, rfl, fun rest => by rw [hb]; rfl⟩
  · exact .inl ⟨_, rfl, fun rest => by rw [ht]; rfl⟩
  · subst hn
    exact .inr ⟨rfl, by decide, .inr ⟨hlong, rfl⟩⟩
  · exact .inl ⟨_, rfl, fun rest => by rw [hn]; rfl⟩
  · exact .inl ⟨_, rfl, fun rest => by rw [hf]; rfl⟩
  · exact .inl ⟨_, rfl, fun rest => by rw [hr]; rfl⟩
  · exact .inl ⟨_, rfl, fun rest => by rw [hslash]; rfl⟩
  · have hlt := lt_of_needsCode hcode
    refine .inl ⟨_, rfl, fun rest => ?_⟩
    have hread := readCode_four (Nat.lt_trans hlt (by decide)) c.valid rest
    rwa [Char.ofNat_toNat] at hread
  · exact .inr ⟨rfl, hslash, .inl ⟨isPlain_of_not_needsCode (by simpa using hcode) hn, hn⟩⟩

/-- What is written for another character than a double quote does not begin with one. -/
theorem head?_escapeChar_ne (long : Bool) {c : Char} (hquote : c ≠ '"') :
    ∃ d more, escapeChar long c = d :: more ∧ d ≠ '"' := by
  rcases escapeChar_cases long hquote with ⟨escape, heq, -⟩ | ⟨heq, -⟩
  · exact ⟨_, _, heq, by decide⟩
  · exact ⟨_, _, heq, hquote⟩

/-- Another character ends the run of quotes. -/
theorem escapeFrom_cons_of_ne (long : Bool) (room run : Nat) {c : Char} (hquote : c ≠ '"')
    (cs : List Char) :
    escapeFrom long room run (c :: cs) = escapeChar long c ++ escapeFrom long room 0 cs := by
  rw [escapeFrom]
  exact hquote

/-- A text does not get shorter when it is escaped. -/
theorem length_le_length_escapeFrom (long : Bool) (room run : Nat) (cs : List Char) :
    cs.length ≤ (escapeFrom long room run cs).length := by
  induction cs generalizing run with
  | nil => exact Nat.zero_le _
  | cons c cs ih =>
    by_cases hquote : c = '"'
    · subst hquote
      rw [escapeFrom]
      split
      · exact Nat.succ_le_succ (ih _)
      · exact Nat.succ_le_succ (Nat.le_succ_of_le (ih _))
    · obtain ⟨d, more, hd, -⟩ := head?_escapeChar_ne long hquote
      rw [escapeFrom_cons_of_ne long room run hquote, hd, List.length_append, List.length_cons,
        List.length_cons]
      have := ih 0
      omega

/-! ## Double quotes -/

section

variable {bound : Nat} {text after : List Char}

/-- An escape is read as its character. -/
theorem readBasic_escape {escape rest : List Char} {c : Char}
    (hescape : readEscape escape = some (c, rest))
    (hrest : readBasic bound rest = some (text, after)) :
    readBasic (bound + 1) ('\\' :: escape) = some (c :: text, after) := by
  simp only [readBasic, hescape, hrest, bind, Option.bind_some]

/-- A plain character is read as itself. -/
theorem readBasic_plain {c : Char} {rest : List Char} (hquote : c ≠ '"') (hslash : c ≠ '\\')
    (hplain : isPlain c = true) (hrest : readBasic bound rest = some (text, after)) :
    readBasic (bound + 1) (c :: rest) = some (c :: text, after) := by
  rw [readBasic.eq_5 _ _ _ hquote hslash, if_pos hplain, hrest]
  rfl

/-- A text in double quotes is read to their end. -/
theorem readBasic_escapeFrom {cs : List Char} (h : cs.length < bound) (rest : List Char) :
    readBasic bound (escapeFrom false 0 0 cs ++ '"' :: rest) = some (cs, rest) := by
  induction cs generalizing bound with
  | nil =>
    obtain ⟨k, rfl⟩ := Nat.exists_eq_add_of_lt h
    rfl
  | cons c cs ih =>
    cases bound with
    | zero => exact absurd h (Nat.not_lt_zero _)
    | succ bound =>
      have hcs := ih (Nat.lt_of_succ_lt_succ h)
      by_cases hquote : c = '"'
      · subst hquote
        exact readBasic_escape rfl hcs
      · rw [escapeFrom_cons_of_ne false 0 0 hquote, List.append_assoc]
        rcases escapeChar_cases false hquote with ⟨escape, heq, hread⟩ | ⟨heq, hslash, hplain⟩
        · rw [heq]
          exact readBasic_escape (hread _) hcs
        · rw [heq]
          obtain ⟨hplain, -⟩ | ⟨hlong, -⟩ := hplain
          · exact readBasic_plain hquote hslash hplain hcs
          · cases hlong

/-! ### Three of them -/

/-- Three quotes begin the text. -/
def ClosesWith (mark : Char) (cs : List Char) : Prop := ∃ rest, cs = mark :: mark :: mark :: rest

/-- An escape is read in the long form as in the short one. -/
theorem readLongBasic_escape {escape rest : List Char} {c : Char}
    (hescape : readEscape escape = some (c, rest))
    (hrest : readLongBasic bound rest = some (text, after)) :
    readLongBasic (bound + 1) ('\\' :: escape) = some (c :: text, after) := by
  simp only [readLongBasic, hescape, hrest, bind, Option.bind_some]

/-- Only two characters start a line break. -/
theorem lineBreak?_of_ne {c : Char} (hn : c ≠ '\n') (hr : c ≠ '\r') (rest : List Char) :
    lineBreak? (c :: rest) = none := by
  unfold lineBreak?
  split <;> simp_all

/-- A plain character other than a line feed begins no line break. -/
theorem lineBreak?_eq_none {c : Char} (hplain : isPlain c = true) (hn : c ≠ '\n')
    (rest : List Char) : lineBreak? (c :: rest) = none := by
  refine lineBreak?_of_ne hn ?_ rest
  rintro rfl
  cases hplain

/-- A plain character is read as itself, if it does not close the text. -/
theorem readLongBasic_plain {c : Char} {rest : List Char} (hclose : ¬ ClosesWith '"' (c :: rest))
    (hslash : c ≠ '\\') (hplain : isPlain c = true) (hn : c ≠ '\n')
    (hrest : readLongBasic bound rest = some (text, after)) :
    readLongBasic (bound + 1) (c :: rest) = some (c :: text, after) := by
  rw [readLongBasic.eq_5, lineBreak?_eq_none hplain hn, if_pos hplain, hrest]
  · rfl
  · intro more hc hmore
    exact hclose ⟨more, by rw [hc, hmore]⟩
  · exact hslash

/-- So is a line break in the long form. -/
theorem readLongBasic_line {rest : List Char}
    (hrest : readLongBasic bound rest = some (text, after)) :
    readLongBasic (bound + 1) ('\n' :: rest) = some ('\n' :: text, after) := by
  have hline : lineBreak? ('\n' :: rest) = some (['\n'], rest) := rfl
  rw [readLongBasic.eq_5 _ _ _ (fun _ h => absurd h (by decide)) (by decide), hline]
  simp only [hrest, bind, Option.bind_some, List.singleton_append]

/-- No quote follows the closing ones. -/
theorem closeLong_of_head? {mark : Char} {cs : List Char} (h : ∀ c ∈ cs.head?, c ≠ mark) :
    closeLong mark cs = ([], cs) := by
  match cs with
  | [] => rfl
  | [c] => simp [closeLong, h c rfl]
  | c :: d :: cs => simp [closeLong, h c rfl]

/-- One quote that follows them is the last character of the text. -/
theorem closeLong_cons {mark : Char} {cs : List Char} (h : ∀ c ∈ cs.head?, c ≠ mark) :
    closeLong mark (mark :: cs) = ([mark], cs) := by
  cases cs with
  | nil => simp [closeLong]
  | cons c cs => simp [closeLong, h c rfl]

/-- Two are the last two. -/
theorem closeLong_cons_cons (mark : Char) (cs : List Char) :
    closeLong mark (mark :: mark :: cs) = ([mark, mark], cs) := by
  simp [closeLong]

/-- A double quote that stands first belongs to the text and has room. -/
theorem quote_ahead {long : Bool} {room run : Nat} {c : Char} {cs more : List Char}
    (h : escapeFrom long room run (c :: cs) ++ after = '"' :: more) :
    c = '"' ∧ run < room ∧ more = escapeFrom long room (run + 1) cs ++ after := by
  by_cases hquote : c = '"'
  · subst hquote
    rw [escapeFrom] at h
    split at h
    · exact ⟨rfl, ‹_›, (List.cons.inj h).2.symm⟩
    · cases (List.cons.inj h).1
  · obtain ⟨d, rest, hd, hne⟩ := head?_escapeChar_ne long hquote
    rw [escapeFrom_cons_of_ne long room run hquote, hd] at h
    exact absurd (List.cons.inj h).1 hne

/-- Where a quote of the text seems to close it, at most one more quote follows in the text. -/
theorem eq_of_closesWith {run : Nat} {cs : List Char}
    (h : ClosesWith '"' ('"' :: (escapeFrom true 2 (run + 1) cs ++ after))) :
    cs = [] ∨ run = 0 ∧ cs = ['"'] := by
  obtain ⟨rest, hrest⟩ := h
  cases cs with
  | nil => exact .inl rfl
  | cons c cs =>
    obtain ⟨rfl, hroom, hmore⟩ := quote_ahead (List.cons.inj hrest).2
    cases cs with
    | nil => exact .inr ⟨by omega, rfl⟩
    | cons d cs =>
      obtain ⟨-, hroom', -⟩ := quote_ahead hmore.symm
      omega

/-- A text in three double quotes is read to their end. -/
theorem readLongBasic_escapeFrom {cs : List Char} (h : cs.length < bound) (run : Nat)
    {rest : List Char} (hrest : NoQuoteAhead rest) :
    readLongBasic bound (escapeFrom true 2 run cs ++ '"' :: '"' :: '"' :: rest) =
      some (cs, rest) := by
  have hclose : ∀ c ∈ rest.head?, c ≠ '"' := fun c hc => (hrest c hc).1
  induction cs generalizing bound run with
  | nil =>
    obtain ⟨k, rfl⟩ := Nat.exists_eq_add_of_lt h
    exact congrArg some (closeLong_of_head? hclose)
  | cons c cs ih =>
    cases bound with
    | zero => exact absurd h (Nat.not_lt_zero _)
    | succ bound =>
      have hcs := fun run => ih (Nat.lt_of_succ_lt_succ h) run
      by_cases hquote : c = '"'
      · subst hquote
        rw [escapeFrom]
        split
        · by_cases hthree : ClosesWith '"'
            ('"' :: (escapeFrom true 2 (run + 1) cs ++ '"' :: '"' :: '"' :: rest))
          · rcases eq_of_closesWith hthree with rfl | ⟨rfl, rfl⟩
            · exact congrArg some (closeLong_cons hclose)
            · exact congrArg some (closeLong_cons_cons '"' rest)
          · exact readLongBasic_plain hthree (by decide) (by decide) (by decide) (hcs _)
        · exact readLongBasic_escape rfl (hcs 0)
      · rw [escapeFrom_cons_of_ne true 2 run hquote, List.append_assoc]
        rcases escapeChar_cases true hquote with ⟨escape, heq, hread⟩ | ⟨heq, hslash, hplain⟩
        · rw [heq]
          exact readLongBasic_escape (hread _) (hcs 0)
        · rw [heq]
          obtain ⟨hplain, hn⟩ | ⟨-, rfl⟩ := hplain
          · have hthree : ¬ ClosesWith '"' ([c] ++ (escapeFrom true 2 0 cs ++
                '"' :: '"' :: '"' :: rest)) := by
              rintro ⟨more, hmore⟩
              exact hquote (List.cons.inj hmore).1
            exact readLongBasic_plain hthree hslash hplain hn (hcs 0)
          · exact readLongBasic_line (hcs 0)

end

/-! ## Single quotes -/

section

variable {text after : List Char}

/-- A text that needs no code has plain characters, line breaks apart. -/
theorem isPlain_of_mem {cs : List Char} {c : Char} (hcode : cs.any needsCode = false)
    (hc : c ∈ cs) (hn : c ≠ '\n') : isPlain c = true :=
  isPlain_of_not_needsCode (by simpa using List.any_eq_false.mp hcode c hc) hn

/-- A text in single quotes is read to their end. -/
theorem readLiteral_append {cs : List Char} (h : ∀ c ∈ cs, isPlain c = true ∧ c ≠ '\'')
    (rest : List Char) : readLiteral (cs ++ '\'' :: rest) = some (cs, rest) := by
  induction cs with
  | nil => rfl
  | cons c cs ih =>
    obtain ⟨⟨hplain, hquote⟩, hcs⟩ := List.forall_mem_cons.mp h
    rw [List.cons_append, readLiteral.eq_3 _ _ hquote, if_pos hplain, ih hcs]
    rfl

/-- The long literal form takes every plain character, a backslash too. -/
theorem readLongLiteral_plain {bound : Nat} {c : Char} {rest : List Char}
    (hclose : ¬ ClosesWith '\'' (c :: rest)) (hplain : isPlain c = true) (hn : c ≠ '\n')
    (hrest : readLongLiteral bound rest = some (text, after)) :
    readLongLiteral (bound + 1) (c :: rest) = some (c :: text, after) := by
  rw [readLongLiteral.eq_4, lineBreak?_eq_none hplain hn, if_pos hplain, hrest]
  · rfl
  · intro more hc hmore
    exact hclose ⟨more, by rw [hc, hmore]⟩

/-- It takes line breaks. -/
theorem readLongLiteral_line {bound : Nat} {rest : List Char}
    (hrest : readLongLiteral bound rest = some (text, after)) :
    readLongLiteral (bound + 1) ('\n' :: rest) = some ('\n' :: text, after) := by
  have hline : lineBreak? ('\n' :: rest) = some (['\n'], rest) := rfl
  rw [readLongLiteral.eq_4 _ _ _ (fun _ h => absurd h (by decide)), hline]
  simp only [hrest, bind, Option.bind_some, List.singleton_append]

/-- Where a quote of the text seems to close it, at most one more quote follows in the text. -/
theorem eq_of_closesWith_literal {cs : List Char} (hruns : ¬ List.replicate 3 '\'' <:+: '\'' :: cs)
    (h : ClosesWith '\'' ('\'' :: (cs ++ after))) : cs = [] ∨ cs = ['\''] := by
  obtain ⟨rest, hrest⟩ := h
  match cs with
  | [] => exact .inl rfl
  | [c] => exact .inr (by rw [(List.cons.inj (List.cons.inj hrest).2).1])
  | c :: d :: cs =>
    obtain ⟨rfl, hmore⟩ := List.cons.inj (List.cons.inj hrest).2
    obtain ⟨rfl, -⟩ := List.cons.inj hmore
    exact absurd ⟨[], cs, rfl⟩ hruns

/-- A text in three single quotes is read to their end. -/
theorem readLongLiteral_append {bound : Nat} {cs : List Char} (h : cs.length < bound)
    (hplain : ∀ c ∈ cs, c ≠ '\n' → isPlain c = true)
    (hruns : ¬ List.replicate 3 '\'' <:+: cs) {rest : List Char} (hrest : NoQuoteAhead rest) :
    readLongLiteral bound (cs ++ '\'' :: '\'' :: '\'' :: rest) = some (cs, rest) := by
  have hclose : ∀ c ∈ rest.head?, c ≠ '\'' := fun c hc => (hrest c hc).2
  induction cs generalizing bound with
  | nil =>
    obtain ⟨k, rfl⟩ := Nat.exists_eq_add_of_lt h
    exact congrArg some (closeLong_of_head? hclose)
  | cons c cs ih =>
    cases bound with
    | zero => exact absurd h (Nat.not_lt_zero _)
    | succ bound =>
      have hcs := ih (Nat.lt_of_succ_lt_succ h) (fun d hd => hplain d (List.mem_cons_of_mem c hd))
        fun hinfix => hruns (List.infix_cons hinfix)
      by_cases hthree : ClosesWith '\'' (c :: (cs ++ '\'' :: '\'' :: '\'' :: rest))
      · obtain rfl : c = '\'' := (List.cons.inj hthree.choose_spec).1
        rcases eq_of_closesWith_literal hruns hthree with rfl | rfl
        · exact congrArg some (closeLong_cons hclose)
        · exact congrArg some (closeLong_cons_cons '\'' rest)
      · by_cases hn : c = '\n'
        · subst hn
          exact readLongLiteral_line hcs
        · exact readLongLiteral_plain hthree (hplain c List.mem_cons_self hn) hn hcs

end

/-! ## Strings -/

/-- The literal form is taken for one line that needs no code and has no single quote. -/
theorem formOf_eq_literal {cs : List Char} (h : formOf cs = .literal) :
    cs.any needsCode = false ∧ longestRun '\'' cs = 0 ∧ cs.contains '\n' = false := by
  unfold formOf at h
  dsimp only at h
  split_ifs at h with hbasic hliteral
  simpa [and_assoc] using hliteral

/-- The long one is taken if at most two of them stand in a row. -/
theorem formOf_eq_longLiteral {cs : List Char} (h : formOf cs = .longLiteral) :
    cs.any needsCode = false ∧ longestRun '\'' cs ≤ 2 := by
  unfold formOf at h
  dsimp only at h
  split_ifs at h with hbasic hliteral hlong hlongLiteral
  simpa using hlongLiteral

/-- What does not start with three quotes is in a short form. -/
theorem readQuoted_eq_readShort {cs : List Char} (hdouble : ¬ ClosesWith '"' cs)
    (hsingle : ¬ ClosesWith '\'' cs) : readQuoted cs = readShort cs := by
  unfold readQuoted
  split
  · exact absurd ⟨_, rfl⟩ hdouble
  · exact absurd ⟨_, rfl⟩ hsingle
  · rfl

/-- What starts with three double quotes is in the long basic form. -/
theorem readQuoted_long_double (cs : List Char) :
    readQuoted ('"' :: '"' :: '"' :: cs) = (readLongBasic (cs.length + 1) (skipLead cs)).map
      fun (text, rest) => (String.ofList text, rest) := rfl

/-- With three single ones it is in the long literal form. -/
theorem readQuoted_long_single (cs : List Char) :
    readQuoted ('\'' :: '\'' :: '\'' :: cs) = (readLongLiteral (cs.length + 1) (skipLead cs)).map
      fun (text, rest) => (String.ofList text, rest) := rfl

/-- The line break in front of a text with line breaks is skipped, and a text without line breaks
begins with none. -/
theorem skipLead_lead {cs written : List Char}
    (h : cs.contains '\n' = false → lineBreak? written = none) :
    skipLead ((if cs.contains '\n' then ['\n'] else []) ++ written) = written := by
  cases hn : cs.contains '\n' with
  | true => rfl
  | false =>
    rw [if_neg Bool.false_ne_true, List.nil_append, skipLead, h hn]

/-- A text without a line break does not start with one in the long form either, and so nothing of
it is skipped. -/
theorem lineBreak?_escapeFrom {cs : List Char} (hn : cs.contains '\n' = false) (rest : List Char) :
    lineBreak? (escapeFrom true 2 0 cs ++ '"' :: rest) = none := by
  cases cs with
  | nil => rfl
  | cons c cs =>
    by_cases hquote : c = '"'
    · subst hquote
      rfl
    · rw [escapeFrom_cons_of_ne true 2 0 hquote]
      rcases escapeChar_cases true hquote with ⟨escape, heq, -⟩ | ⟨heq, -, hplain⟩
      · rw [heq]
        rfl
      · rw [heq]
        have hne : c ≠ '\n' := by
          rintro rfl
          simp at hn
        obtain ⟨hplain, -⟩ | ⟨-, heq'⟩ := hplain
        · exact lineBreak?_eq_none hplain hne _
        · exact absurd heq' hne

/-- A string on one line is read as far as its quotes. -/
theorem readQuoted_basic (cs : List Char) {rest : List Char} (h : NoQuoteAhead rest) :
    readQuoted ('"' :: (escapeFrom false 0 0 cs ++ '"' :: rest)) =
      some (String.ofList cs, rest) := by
  have hdouble : ¬ ClosesWith '"' ('"' :: (escapeFrom false 0 0 cs ++ '"' :: rest)) := by
    rintro ⟨more, hmore⟩
    cases cs with
    | nil =>
      have hrest := (List.cons.inj (List.cons.inj hmore).2).2
      exact (h '"' (by rw [hrest]; rfl)).1 rfl
    | cons c cs =>
      obtain ⟨-, hroom, -⟩ := quote_ahead (List.cons.inj hmore).2
      exact absurd hroom (Nat.not_lt_zero 0)
  have hsingle : ¬ ClosesWith '\'' ('"' :: (escapeFrom false 0 0 cs ++ '"' :: rest)) := by
    rintro ⟨more, hmore⟩
    cases (List.cons.inj hmore).1
  have hlength := length_le_length_escapeFrom false 0 0 cs
  rw [readQuoted_eq_readShort hdouble hsingle, readShort,
    readBasic_escapeFrom (by rw [List.length_append]; omega)]
  rfl

/-- The literal form is read back. -/
theorem readQuoted_literal {cs : List Char} (hcs : ∀ c ∈ cs, isPlain c = true ∧ c ≠ '\'')
    {rest : List Char} (h : NoQuoteAhead rest) :
    readQuoted ('\'' :: (cs ++ '\'' :: rest)) = some (String.ofList cs, rest) := by
  have hdouble : ¬ ClosesWith '"' ('\'' :: (cs ++ '\'' :: rest)) := by
    rintro ⟨more, hmore⟩
    cases (List.cons.inj hmore).1
  have hsingle : ¬ ClosesWith '\'' ('\'' :: (cs ++ '\'' :: rest)) := by
    rintro ⟨more, hmore⟩
    cases cs with
    | nil =>
      have hrest := (List.cons.inj (List.cons.inj hmore).2).2
      exact (h '\'' (by rw [hrest]; rfl)).2 rfl
    | cons c cs => exact (hcs c List.mem_cons_self).2 (List.cons.inj (List.cons.inj hmore).2).1
  rw [readQuoted_eq_readShort hdouble hsingle, readShort, readLiteral_append hcs]
  rfl

/-- A string on several lines is read as far as its quotes, without the line break in front. -/
theorem readQuoted_longBasic (cs : List Char) {rest : List Char} (h : NoQuoteAhead rest) :
    readQuoted ('"' :: '"' :: '"' :: ((if cs.contains '\n' then ['\n'] else []) ++
      (escapeFrom true 2 0 cs ++ '"' :: '"' :: '"' :: rest))) = some (String.ofList cs, rest) := by
  have hlength : cs.length < ((if cs.contains '\n' then ['\n'] else []) ++
      (escapeFrom true 2 0 cs ++ '"' :: '"' :: '"' :: rest)).length + 1 := by
    have := length_le_length_escapeFrom true 2 0 cs
    simp only [List.length_append]
    omega
  rw [readQuoted_long_double, skipLead_lead fun hn => lineBreak?_escapeFrom hn _,
    readLongBasic_escapeFrom hlength 0 h]
  rfl

/-- So is the long one, with the line break that is written in front of a text of many lines. -/
theorem readQuoted_longLiteral {cs : List Char} (hcs : ∀ c ∈ cs, c ≠ '\n' → isPlain c = true)
    (hruns : ¬ List.replicate 3 '\'' <:+: cs) {rest : List Char} (h : NoQuoteAhead rest) :
    readQuoted ('\'' :: '\'' :: '\'' :: ((if cs.contains '\n' then ['\n'] else []) ++
      (cs ++ '\'' :: '\'' :: '\'' :: rest))) = some (String.ofList cs, rest) := by
  have hlength : cs.length < ((if cs.contains '\n' then ['\n'] else []) ++
      (cs ++ '\'' :: '\'' :: '\'' :: rest)).length + 1 := by
    simp only [List.length_append]
    omega
  have hlead : cs.contains '\n' = false →
      lineBreak? (cs ++ '\'' :: '\'' :: '\'' :: rest) = none := by
    intro hn
    cases cs with
    | nil => rfl
    | cons c cs =>
      have hne : c ≠ '\n' := by
        rintro rfl
        simp at hn
      exact lineBreak?_eq_none (hcs c List.mem_cons_self hne) hne _
  rw [readQuoted_long_single, skipLead_lead hlead, readLongLiteral_append hlength hcs hruns h]
  rfl

/-- A string is read back from the form in which it is written. -/
theorem readQuoted_quoted (s : String) {rest : List Char} (h : NoQuoteAhead rest) :
    readQuoted (quoted s ++ rest) = some (s, rest) := by
  have hs : String.ofList s.toList = s := String.ofList_toList
  rw [quoted]
  generalize s.toList = cs at hs
  rw [← hs]
  cases hform : formOf cs with
  | basic =>
    simp only [List.append_assoc, List.cons_append, List.nil_append]
    exact readQuoted_basic cs h
  | literal =>
    obtain ⟨hcode, hruns, hn⟩ := formOf_eq_literal hform
    have hplain : ∀ c ∈ cs, isPlain c = true ∧ c ≠ '\'' := by
      intro c hc
      refine ⟨isPlain_of_mem hcode hc fun heq => ?_, fun heq => ?_⟩
      · rw [heq] at hc
        simp [hc] at hn
      · have hone : List.replicate 1 '\'' <:+: cs := by
          obtain ⟨before, after, rfl⟩ := List.append_of_mem (heq ▸ hc)
          exact ⟨before, after, by simp⟩
        exact absurd (le_longestRun '\'' hone) (by omega)
    simp only [List.append_assoc, List.cons_append, List.nil_append]
    exact readQuoted_literal hplain h
  | longBasic =>
    simp only [List.append_assoc, List.cons_append, List.nil_append]
    exact readQuoted_longBasic cs h
  | longLiteral =>
    obtain ⟨hcode, hruns⟩ := formOf_eq_longLiteral hform
    have hthree : ¬ List.replicate 3 '\'' <:+: cs := fun hinfix =>
      absurd (le_longestRun '\'' hinfix) (by omega)
    simp only [List.append_assoc, List.cons_append, List.nil_append]
    exact readQuoted_longLiteral (fun c hc => isPlain_of_mem hcode hc) hthree h

end ChatArchive.Toml
