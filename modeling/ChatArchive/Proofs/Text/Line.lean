import ChatArchive.Proofs.Text.Display

/-!
# Plain text and lines

Control sequences that stand between the characters of a text are dropped, and what is left is the
text (`dropSequences_of_woven`).  What remains of a sequence that is cut off, or that another one
stands in, loses its mark, so that a line never has a control character.

`IsLine` is the form of what is made for a single line: every line has it (`isLine_line`), and what
has it is left as it is (`line_of_isLine`).
-/

namespace ChatArchive.Text

/-! ## Control sequences -/

/-- A complete control sequence: a mark, a bracket, parameters of digits, semicolons and question
marks, and a letter. -/
def IsSequence (q : List Char) : Prop :=
  ∃ (params : List Char) (letter : Char), q = escapeMark :: '[' :: (params ++ [letter]) ∧
    (∀ c ∈ params, c.isDigit = true ∨ c = ';' ∨ c = '?') ∧ letter.isAlpha = true

/-- The second text is the first with control sequences between its characters, any number of them
at each place. -/
inductive Woven : List Char → List Char → Prop where
  | nil : Woven [] []
  | char (c : Char) {cs ds : List Char} (h : Woven cs ds) : Woven (c :: cs) (c :: ds)
  | sequence {q cs ds : List Char} (hq : IsSequence q) (h : Woven cs ds) : Woven cs (q ++ ds)

/-- A parameter of a sequence is a digit or one of two marks. -/
theorem isParameter_iff {c : Char} :
    isParameter c = true ↔ c.isDigit = true ∨ c = ';' ∨ c = '?' := by
  simp [isParameter, or_assoc]

/-- Letters stand behind the digits. -/
theorem lt_toNat_of_isAlpha {c : Char} (h : c.isAlpha = true) : 0x40 < c.toNat := by
  rcases (Bool.or_eq_true _ _).mp h with hupper | hlower
  · have hlow : 0x41 ≤ c.toNat := (of_decide_eq_true hupper).1
    omega
  · have hlow : 0x61 ≤ c.toNat := of_decide_eq_true ((Bool.and_eq_true _ _).mp hlower).1
    omega

/-- The letter that ends a sequence is none. -/
theorem isParameter_of_isAlpha {c : Char} (h : c.isAlpha = true) : isParameter c = false := by
  have hletter := lt_toNat_of_isAlpha h
  rw [← Bool.not_eq_true, isParameter_iff]
  rintro (hdigit | rfl | rfl)
  · have hhigh : c.toNat ≤ 0x39 := of_decide_eq_true ((Bool.and_eq_true _ _).mp hdigit).2
    omega
  · exact absurd hletter (by decide)
  · exact absurd hletter (by decide)

/-- A complete sequence is taken away as a whole. -/
theorem afterSequence?_append {q : List Char} (hq : IsSequence q) (cs : List Char) :
    afterSequence? (q ++ cs) = some cs := by
  obtain ⟨params, letter, rfl, hparams, hletter⟩ := hq
  have hparams : ∀ c ∈ params, isParameter c = true :=
    fun c hc => isParameter_iff.mpr (hparams c hc)
  have hstop : isParameter letter = false := isParameter_of_isAlpha hletter
  have hrest : ((params ++ [letter]) ++ cs).dropWhile isParameter = letter :: cs := by
    rw [List.append_assoc, List.dropWhile_append_of_pos hparams, List.singleton_append,
      List.dropWhile_cons_of_neg (by simp [hstop])]
  simp only [List.cons_append, afterSequence?, if_true, hrest, hletter]

/-- A sequence starts with the escape character. -/
theorem afterSequence?_of_ne {c : Char} (hc : c ≠ escapeMark) (cs : List Char) :
    afterSequence? (c :: cs) = none := by
  unfold afterSequence?
  split
  · rename_i heq
    obtain ⟨rfl, -⟩ := List.cons.inj heq
    rw [if_neg hc]
  · rfl

/-- A sequence is dropped. -/
theorem dropSequences_of_some {cs rest : List Char} (h : afterSequence? cs = some rest) :
    dropSequences cs = dropSequences rest := by
  cases cs with
  | nil => cases h
  | cons c cs =>
    rw [dropSequences]
    split <;> simp_all

/-- A character that starts none is kept. -/
theorem dropSequences_of_none {c : Char} {cs : List Char} (h : afterSequence? (c :: cs) = none) :
    dropSequences (c :: cs) = c :: dropSequences cs := by
  rw [dropSequences]
  split <;> simp_all

/-- Sequences between the characters of a text are dropped, and no more than these. -/
theorem dropSequences_of_woven {cs ds : List Char} (h : Woven cs ds)
    (hcs : ∀ c ∈ cs, c ≠ escapeMark) : dropSequences ds = cs := by
  induction h with
  | nil => rw [dropSequences]
  | char c h ih =>
    obtain ⟨hc, hcs⟩ := List.forall_mem_cons.mp hcs
    rw [dropSequences_of_none (afterSequence?_of_ne hc _), ih hcs]
  | sequence hq h ih => rw [dropSequences_of_some (afterSequence?_append hq _), ih hcs]

/-- A text is woven from itself, without any sequence. -/
theorem Woven.refl (cs : List Char) : Woven cs cs := by
  induction cs with
  | nil => exact .nil
  | cons c cs ih => exact .char c ih

/-- A text without control characters is left, if sequences are put between its characters. -/
theorem plain_of_woven {cs ds : List Char} (h : Woven cs ds)
    (hcs : ∀ c ∈ cs, isControl c = false) : plain ds = cs := by
  have hmark : isControl escapeMark = true := by decide
  have hne : ∀ c ∈ cs, c ≠ escapeMark := by
    rintro c hc rfl
    exact Bool.false_ne_true ((hcs _ hc).symm.trans hmark)
  rw [plain, dropSequences_of_woven h hne, List.filter_eq_self]
  exact fun c hc => by simp [hcs c hc]

/-! ## Clipping -/

/-- The text is no longer than the width, or is the mark of a text that was cut. -/
def Fits (width : Nat) (cs : List Char) : Prop := cs.length ≤ width ∨ cs = cutMark

/-- What fits is not clipped. -/
theorem clip_of_fits {width : Nat} {cs : List Char} (h : Fits width cs) : clip width cs = cs := by
  unfold clip
  split_ifs with hle
  · rfl
  · obtain rfl := h.resolve_left hle
    have hshort : width - cutMark.length = 0 := by omega
    rw [hshort, List.take_zero, List.nil_append]

/-- What was clipped fits. -/
theorem fits_clip (width : Nat) (cs : List Char) : Fits width (clip width cs) := by
  have hmark : cutMark.length = 3 := by decide
  unfold clip
  split_ifs with hle
  · exact .inl hle
  · by_cases hwidth : 3 ≤ width
    · refine .inl ?_
      rw [List.length_append, List.length_take, hmark]
      omega
    · have hshort : width - cutMark.length = 0 := by omega
      rw [hshort, List.take_zero, List.nil_append]
      exact .inr rfl

/-- What is clipped begins as before, or with the mark. -/
theorem head?_clip {width : Nat} {cs : List Char} {c : Char} (h : c ∈ (clip width cs).head?) :
    c ∈ cs.head? ∨ c = '.' := by
  unfold clip at h
  split_ifs at h
  · exact .inl h
  · rw [List.head?_append, List.head?_take] at h
    split_ifs at h
    · exact .inr (Option.some.inj h).symm
    · cases hhead : cs.head? with
      | none => exact .inr (by rw [hhead] at h; exact (Option.some.inj h).symm)
      | some d => exact .inl (by rw [hhead] at h; exact h)

/-- What is clipped ends as before, or with the mark. -/
theorem getLast?_clip {width : Nat} {cs : List Char} {c : Char}
    (h : c ∈ (clip width cs).getLast?) : c ∈ cs.getLast? ∨ c = '.' := by
  unfold clip at h
  split_ifs at h
  · exact .inl h
  · rw [List.getLast?_append_of_ne_nil _ (by decide)] at h
    exact .inr (Option.some.inj h).symm

/-! ## Lines -/

/-- A text for a single line: it has no control character, no blank but spaces, and none of these
at either end. -/
structure IsLine (width : Nat) (cs : List Char) : Prop where
  printable : ∀ c ∈ cs, isControl c = false
  blank : ∀ c ∈ cs, isBlank c = true → c = ' '
  head : ∀ c ∈ cs.head?, c ≠ ' '
  last : ∀ c ∈ cs.getLast?, c ≠ ' '
  fits : Fits width cs

/-- The function makes lines, of every text and for every width. -/
theorem isLine_line (width : Nat) (cs : List Char) : IsLine width (line width cs) where
  printable _ := isControl_of_mem_line
  blank c hc hblank := by
    rcases mem_of_mem_clip hc with htext | hmark
    · obtain ⟨d, -, rfl⟩ := List.mem_map.mp (mem_of_mem_trim htext)
      split_ifs at hblank ⊢ with hd
      · rfl
      · exact absurd hblank hd
    · have hdots : (cutMark.all fun c => !isBlank c) = true := by decide
      have hdot := List.all_eq_true.mp hdots c hmark
      rw [hblank] at hdot
      exact absurd hdot Bool.false_ne_true
  head := by
    rintro c hc rfl
    rcases head?_clip hc with htext | hdot
    · exact absurd (not_blank_of_head?_trim _ htext) (by decide)
    · exact absurd hdot (by decide)
  last := by
    rintro c hc rfl
    rcases getLast?_clip hc with htext | hdot
    · exact absurd (not_blank_of_getLast?_trim _ htext) (by decide)
    · exact absurd hdot (by decide)
  fits := fits_clip _ _

namespace IsLine

variable {width : Nat} {cs : List Char}

/-- A line is at most as long as its width, or as the mark of the cut where this is longer. -/
theorem length_le (h : IsLine width cs) : cs.length ≤ max width 3 := by
  rcases h.fits with hle | rfl
  · exact hle.trans (Nat.le_max_left _ _)
  · exact Nat.le_max_right _ _

/-- At the ends of a line there is no blank at all. -/
theorem trim_eq (h : IsLine width cs) : trim cs = cs := by
  refine trim_of_not_blank (fun c hc => ?_) fun c hc => ?_
  · exact eq_false_of_ne_true fun hblank =>
      h.head c hc (h.blank c (List.mem_of_mem_head? hc) hblank)
  · exact eq_false_of_ne_true fun hblank =>
      h.last c hc (h.blank c (List.mem_of_mem_getLast? hc) hblank)

end IsLine

/-- A line is left as it is. -/
theorem line_of_isLine {width : Nat} {cs : List Char} (h : IsLine width cs) :
    line width cs = cs := by
  have hspaces : (cs.map fun c => if isBlank c then ' ' else c) = cs := by
    refine (List.map_congr_left fun c hc => ?_).trans cs.map_id
    split_ifs with hblank
    · exact (h.blank c hc hblank).symm
    · rfl
  rw [line, plain_of_woven (.refl cs) h.printable, hspaces, h.trim_eq, clip_of_fits h.fits]

/-- A line of a text is no longer than its width, or than the mark of a text that was cut where that
is longer; it has no control character and no blank but spaces, neither begins nor ends with a
space, and is the line of itself.  Complete control sequences that stand between the characters of a
text without control characters are dropped, and the text is left. -/
theorem display_of_text :
    (∀ (width : Nat) (s : String),
      (lineText width s).length ≤ max width 3 ∧
      (∀ c ∈ (lineText width s).toList, isControl c = false ∧ (isBlank c = true → c = ' ')) ∧
      (lineText width s).toList.head? ≠ some ' ' ∧ (lineText width s).toList.getLast? ≠ some ' ' ∧
      lineText width (lineText width s) = lineText width s) ∧
    ∀ s t : String, IsPrintable s → Woven s.toList t.toList → plainText t = s := by
  refine ⟨fun width s => ?_, fun s t hs ht => ?_⟩
  · have hline := isLine_line width s.toList
    have hlist : (lineText width s).toList = line width s.toList := String.toList_ofList
    have hagain := line_of_isLine hline
    refine ⟨?_, ?_, ?_, ?_, ?_⟩
    · rw [← String.length_toList, hlist]
      exact hline.length_le
    · rw [hlist]
      exact fun c hc => ⟨hline.printable c hc, hline.blank c hc⟩
    · rw [hlist]
      exact fun hhead => hline.head ' ' hhead rfl
    · rw [hlist]
      exact fun hlast => hline.last ' ' hlast rfl
    · rw [lineText, hlist, hagain, lineText]
  · rw [plainText, plain_of_woven ht hs, String.ofList_toList]

/-- Two sequences next to each other, one in front of what looks like the rest of a sequence, and
one at the end. -/
theorem display_of_woven_text :
    IsPrintable "a[31m" ∧ Woven "a[31m".toList "\x1b[1;31ma\x1b[0m\x1b[?25l[31m\x1b[K".toList ∧
      plainText "\x1b[1;31ma\x1b[0m\x1b[?25l[31m\x1b[K" = "a[31m" := by
  have hprintable : IsPrintable "a[31m" := by decide
  have hsequence : ∀ (params : List Char) (letter : Char), params.all isParameter = true →
      letter.isAlpha = true → IsSequence (escapeMark :: '[' :: (params ++ [letter])) := by
    intro params letter hparams hletter
    refine ⟨params, letter, rfl, fun c hc => ?_, hletter⟩
    exact isParameter_iff.mp (List.all_eq_true.mp hparams c hc)
  have hend : Woven "[31m".toList "[31m\x1b[K".toList :=
    .char '[' (.char '3' (.char '1' (.char 'm'
      (.sequence (hsequence [] 'K' (by decide) (by decide)) .nil))))
  have hwoven : Woven "a[31m".toList "\x1b[1;31ma\x1b[0m\x1b[?25l[31m\x1b[K".toList :=
    .sequence (hsequence ['1', ';', '3', '1'] 'm' (by decide) (by decide))
      (.char 'a' (.sequence (hsequence ['0'] 'm' (by decide) (by decide))
        (.sequence (hsequence ['?', '2', '5'] 'l' (by decide) (by decide)) hend)))
  exact ⟨hprintable, hwoven, display_of_text.2 _ _ hprintable hwoven⟩

end ChatArchive.Text
