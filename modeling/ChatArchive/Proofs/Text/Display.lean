import ChatArchive.Calendar.Printer
import ChatArchive.Proofs.Text.Basic
import ChatArchive.Proofs.Text.Digits
import ChatArchive.Text.Display

/-!
# Text without control characters

A text is printable if it has no control character, line breaks included.  What is made for a single
line is (`isPrintable_lineText`), whatever it was made of, and so are numbers and times.
-/

namespace ChatArchive

namespace Text

open ChatArchive.Unicode (CharSet)

/-! ## Control characters -/

/-- Control characters are those of the two blocks. -/
theorem isControl_iff (c : Char) :
    isControl c = true ↔ c.toNat ≤ 0x1F ∨ 0x7F ≤ c.toNat ∧ c.toNat ≤ 0x9F := by
  unfold isControl CharSet.contains CharSet.containsCode CharSet.controls
  simp only [CharSet.containsIn]
  split_ifs <;> simp <;> omega

/-- Digits are none of them. -/
theorem isControl_of_isDigit {c : Char} (h : c.isDigit = true) : isControl c = false := by
  obtain ⟨hlow, hhigh⟩ := (Bool.and_eq_true _ _).mp h
  have hlow : 0x30 ≤ c.toNat := of_decide_eq_true hlow
  have hhigh : c.toNat ≤ 0x39 := of_decide_eq_true hhigh
  rw [← Bool.not_eq_true, isControl_iff]
  omega

/-- Control characters that are kept for the layout are blank. -/
theorem isBlank_of_isLayout {c : Char} (h : isLayout c = true) : isBlank c = true := by
  have hcases : (c = '\t' ∨ c = '\n') ∨ c = '\r' := by simpa [isLayout] using h
  obtain (rfl | rfl) | rfl := hcases <;> decide

/-! ## Lines -/

/-- Clipping adds only the mark of the cut. -/
theorem mem_of_mem_clip {width : Nat} {cs : List Char} {c : Char} (h : c ∈ clip width cs) :
    c ∈ cs ∨ c ∈ cutMark := by
  unfold clip at h
  split_ifs at h
  · exact .inl h
  · exact (List.mem_append.mp h).imp_left List.mem_of_mem_take

/-- No control character is left on a line, be it that it is dropped or that a space stands for
it. -/
theorem isControl_of_mem_line {width : Nat} {cs : List Char} {c : Char} (h : c ∈ line width cs) :
    isControl c = false := by
  rcases mem_of_mem_clip h with htext | hmark
  · obtain ⟨d, hd, rfl⟩ := List.mem_map.mp (mem_of_mem_trim htext)
    have hkept : isControl d = false ∨ isLayout d = true := by
      simpa using (List.mem_filter.mp hd).2
    split_ifs with hblank
    · decide
    · exact hkept.resolve_right fun hlayout => hblank (isBlank_of_isLayout hlayout)
  · have hclean : (cutMark.all fun c => !isControl c) = true := by decide
    simpa using List.all_eq_true.mp hclean c hmark

/-! ## Printable text -/

/-- The text has no control character. -/
def IsPrintable (s : String) : Prop := ∀ c ∈ s.toList, isControl c = false

/-- It can be decided, character by character. -/
instance : DecidablePred IsPrintable :=
  fun s => decidable_of_iff ((s.toList.all fun c => !isControl c) = true) (by simp [IsPrintable])

/-- Printable texts in a row are printable. -/
theorem IsPrintable.append {s t : String} (hs : IsPrintable s) (ht : IsPrintable t) :
    IsPrintable (s ++ t) := by
  unfold IsPrintable
  rw [String.toList_append]
  exact List.forall_mem_append.mpr ⟨hs, ht⟩

/-- A text of printable characters is printable. -/
theorem isPrintable_ofList {cs : List Char} (h : ∀ c ∈ cs, isControl c = false) :
    IsPrintable (String.ofList cs) := by
  unfold IsPrintable
  rwa [String.toList_ofList]

/-- So is each of some printable texts, and the empty one in place of a missing one. -/
theorem isPrintable_getD {texts : List String} (h : ∀ text ∈ texts, IsPrintable text) (i : Nat) :
    IsPrintable (texts.getD i "") := by
  rw [List.getD_eq_getElem?_getD]
  cases htext : texts[i]? with
  | none => exact (by decide : IsPrintable "")
  | some text => exact h text (List.mem_of_getElem? htext)

/-- What is cut to a line is printable, whatever the text was. -/
theorem isPrintable_lineText (width : Nat) (s : String) : IsPrintable (lineText width s) :=
  isPrintable_ofList fun _ => isControl_of_mem_line

/-- Natural numbers are printable. -/
theorem isPrintable_toString (n : Nat) : IsPrintable (toString n) := by
  intro c hc
  have hdigits : (toString n).toList = Nat.toDigits 10 n := Nat.toList_repr
  exact isControl_of_isDigit (isDigit_of_mem_toDigits (hdigits ▸ hc))

/-- Integers are as well. -/
theorem isPrintable_toString_int (i : Int) : IsPrintable (toString i) := by
  cases i with
  | ofNat n => exact isPrintable_toString n
  | negSucc n =>
    have hminus : IsPrintable "-" := by decide
    exact hminus.append (isPrintable_toString (n + 1))

end Text

/-! ## Times -/

namespace Calendar

open Text

/-- An elapsed time is printable. -/
theorem isPrintable_elapsedText (seconds : Int) : IsPrintable (elapsedText seconds) := by
  unfold elapsedText
  dsimp only
  split_ifs
  · exact (isPrintable_toString_int _).append (by decide)
  · exact (isPrintable_toString_int _).append (by decide)
  · exact (isPrintable_toString_int _).append (by decide)
  · decide

/-- So is the name of a month. -/
theorem isPrintable_monthName (month : Nat) : IsPrintable (monthName month) :=
  isPrintable_getD (by decide) _

/-- A year has no control character, with its sign too. -/
theorem isControl_of_mem_yearText {year : Int} {c : Char} (h : c ∈ yearText year) :
    isControl c = false := by
  have hdigits : ∀ n, ∀ d ∈ padded 4 n, isControl d = false := fun n d hd =>
    isControl_of_isDigit (isDigit_of_mem_padded hd)
  unfold yearText at h
  split_ifs at h
  · exact hdigits _ c h
  all_goals
    rcases List.mem_cons.mp h with rfl | hrest
    · decide
    · exact hdigits _ c hrest

end Calendar

/-- The time of a record is printable. -/
theorem Timestamp.isPrintable_toDisplayText (t now : Timestamp) :
    Text.IsPrintable (t.toDisplayText now) := by
  have hday : Text.IsPrintable (Calendar.monthName t.date.civil.month ++ " " ++
      toString t.date.civil.day) :=
    ((Calendar.isPrintable_monthName _).append (by decide)).append (Text.isPrintable_toString _)
  have hyear : Text.IsPrintable (String.ofList (Calendar.yearText t.date.civil.year)) :=
    Text.isPrintable_ofList fun _ => Calendar.isControl_of_mem_yearText
  unfold Timestamp.toDisplayText
  dsimp only
  split_ifs
  · exact Calendar.isPrintable_elapsedText _
  · exact hday
  · exact (hday.append (by decide)).append hyear

end ChatArchive
