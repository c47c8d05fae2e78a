import ChatArchive.Toml.Printer
import ChatArchive.Toml.Reader
import ChatArchive.Proofs.Json.RoundTrip
import ChatArchive.Proofs.Toml.Quoted
import Mathlib.Data.List.Basic
import Mathlib.Data.List.TakeDrop

/-!
# Reading scalars

Strings and integers are read back as they are written (`readValue_toText`).  An integer is a word
of decimal digits, with a minus if it is negative (`integer?_intText`), and the word ends with the
line (`cutWord_line`).
-/

namespace ChatArchive.Toml

open Text (appendDigits)

/-! ## Digits -/

/-- Digits without a line between them are taken as they are. -/
theorem groupedDigits_of_digits {ds : List Char} (h : ∀ d ∈ ds, d.isDigit = true) (hne : ds ≠ []) :
    groupedDigits Char.isDigit ds = some ds := by
  induction ds with
  | nil => exact absurd rfl hne
  | cons d ds ih =>
    obtain ⟨hd, hds⟩ := List.forall_mem_cons.mp h
    cases ds with
    | nil => simp [groupedDigits, hd]
    | cons e ds =>
      have he : e ≠ '_' := by
        rintro rfl
        exact absurd (hds _ List.mem_cons_self) (by decide)
      rw [groupedDigits, if_pos hd, ih hds (List.cons_ne_nil _ _)]
      · rfl
      · exact he

/-- Decimal digits have the value that they denote. -/
theorem valueOf_ten {ds : List Char} (h : ∀ d ∈ ds, d.isDigit = true) :
    valueOf 10 ds = appendDigits 0 ds := by
  have hdigit : ∀ d : Char, d.isDigit = true →
      (Unicode.CharSet.hexDigit? d).getD 0 = d.toNat - '0'.toNat := by
    intro d hd
    have hrange : '0'.val ≤ d.val ∧ d.val ≤ '9'.val := by simpa [Char.isDigit] using hd
    have hrange' : '0' ≤ d ∧ d ≤ '9' := hrange
    rw [Unicode.CharSet.hexDigit?, if_pos hrange']
    rfl
  exact List.foldl_ext _ _ 0 fun n d hd => by rw [hdigit d (h d hd)]

/-- A whole number is read back from its digits. -/
theorem wholeNumber?_toDigits (n : Nat) : wholeNumber? (Nat.toDigits 10 n) = some n := by
  have hdigits : ∀ d ∈ Nat.toDigits 10 n, d.isDigit = true := fun _ => Text.isDigit_of_mem_toDigits
  have hvalue : valueOf 10 (Nat.toDigits 10 n) = n := by
    rw [valueOf_ten hdigits, Text.appendDigits_toDigits]
  unfold wholeNumber?
  rw [groupedDigits_of_digits hdigits Nat.toDigits_ne_nil]
  simp only [bind, Option.bind_some]
  split
  · rename_i hzero
    cases Text.toDigits_eq_zero_cons hzero
  · rw [hvalue]

/-! ## Integers -/

/-- An integer is written as in a node. -/
theorem toList_toString (n : Int) : (toString n).toList = Json.intText n := by
  cases n with
  | ofNat m =>
    change (Nat.repr m).toList = _
    simp [Nat.repr, Json.intText]
  | negSucc m =>
    change ("-" ++ Nat.repr (m + 1)).toList = _
    simp [Nat.repr, Json.intText, Int.negSucc_lt_zero]

/-- A word that begins with no mark of another base is a decimal number behind its sign. -/
theorem integer?_of_decimal {word ds : List Char} {negative : Bool} {n : Nat}
    (h : ∀ c ∈ word.tail.head?, c ≠ 'x' ∧ c ≠ 'o' ∧ c ≠ 'b') (hsign : cutSign word = (negative, ds))
    (hn : wholeNumber? ds = some n) :
    integer? word = some (if negative then -(n : Int) else n) := by
  unfold integer?
  split
  · exact absurd rfl (h _ rfl).1
  · exact absurd rfl (h _ rfl).2.1
  · exact absurd rfl (h _ rfl).2.2
  · rw [hsign]
    simp only [hn]
    rfl

/-- A digit is no sign and no mark of another base. -/
theorem isDigit_ne {c : Char} (h : c.isDigit = true) :
    c ≠ 'x' ∧ c ≠ 'o' ∧ c ≠ 'b' ∧ c ≠ '-' ∧ c ≠ '+' := by
  refine ⟨?_, ?_, ?_, ?_, ?_⟩ <;> (rintro rfl; revert h; decide)

/-- Digits have no sign in front. -/
theorem cutSign_digits {ds : List Char} (h : ∀ d ∈ ds, d.isDigit = true) :
    cutSign ds = (false, ds) := by
  unfold cutSign
  split
  · exact absurd rfl (isDigit_ne (h _ List.mem_cons_self)).2.2.2.1
  · exact absurd rfl (isDigit_ne (h _ List.mem_cons_self)).2.2.2.2
  · rfl

/-- An integer is read back, with its sign. -/
theorem integer?_intText (n : Int) : integer? (Json.intText n) = some n := by
  have hdigits : ∀ d ∈ Nat.toDigits 10 n.natAbs, d.isDigit = true :=
    fun _ => Text.isDigit_of_mem_toDigits
  have hmark : ∀ d ∈ Nat.toDigits 10 n.natAbs, d ≠ 'x' ∧ d ≠ 'o' ∧ d ≠ 'b' := by
    intro d hd
    obtain ⟨hx, ho, hb, -⟩ := isDigit_ne (hdigits d hd)
    exact ⟨hx, ho, hb⟩
  unfold Json.intText
  split_ifs with hneg
  · have hmark' : ∀ c ∈ ('-' :: Nat.toDigits 10 n.natAbs).tail.head?,
        c ≠ 'x' ∧ c ≠ 'o' ∧ c ≠ 'b' := fun c hc => hmark c (List.mem_of_mem_head? hc)
    have hvalue : -(n.natAbs : Int) = n := by omega
    rw [integer?_of_decimal hmark' rfl (wholeNumber?_toDigits n.natAbs), if_pos rfl, hvalue]
  · have hmark' : ∀ c ∈ (Nat.toDigits 10 n.natAbs).tail.head?, c ≠ 'x' ∧ c ≠ 'o' ∧ c ≠ 'b' :=
      fun c hc => hmark c (List.mem_of_mem_tail (List.mem_of_mem_head? hc))
    have hvalue : (n.natAbs : Int) = n := by omega
    rw [integer?_of_decimal hmark' (cutSign_digits hdigits) (wholeNumber?_toDigits n.natAbs),
      if_neg Bool.false_ne_true, hvalue]

/-! ## Words -/

/-- An integer is written in digits, with a sign in front if it is negative. -/
theorem eq_or_isDigit_of_mem_intText {n : Int} {c : Char} (h : c ∈ Json.intText n) :
    c = '-' ∨ c.isDigit = true := by
  unfold Json.intText at h
  split_ifs at h
  · rcases List.mem_cons.mp h with rfl | hmem
    · exact .inl rfl
    · exact .inr (Text.isDigit_of_mem_toDigits hmem)
  · exact .inr (Text.isDigit_of_mem_toDigits h)

/-- Its text is one word. -/
theorem not_endsWord_of_mem_intText {n : Int} {c : Char} (h : c ∈ Json.intText n) :
    endsWord c = false := by
  rcases eq_or_isDigit_of_mem_intText h with rfl | hdigit
  · rfl
  · have hlow : 48 ≤ c.toNat := (Char.isDigit_iff_toNat.mp hdigit).1
    refine Bool.eq_false_iff.mpr fun hends => ?_
    simp only [endsWord, Bool.or_eq_true, decide_eq_true_eq, List.contains_iff_mem,
      List.mem_cons, List.not_mem_nil, or_false] at hends
    rcases hends with hle | rfl | rfl | rfl | rfl | rfl
    · omega
    all_goals exact absurd hdigit (by decide)

/-- A word ends with its line. -/
theorem cutWord_line {word : List Char} (h : ∀ c ∈ word, endsWord c = false) (rest : List Char) :
    cutWord (word ++ '\n' :: rest) = (word, '\n' :: rest) := by
  have hword : ∀ c ∈ word, (!endsWord c) = true := fun c hc => by rw [h c hc]; rfl
  have hline : (!endsWord '\n') = false := rfl
  have hspan : (word ++ '\n' :: rest).span (fun c => !endsWord c) = (word, '\n' :: rest) := by
    rw [List.span_eq_takeWhile_dropWhile, List.takeWhile_append_of_pos hword,
      List.dropWhile_append_of_pos hword, List.takeWhile_cons, hline, List.dropWhile_cons, hline]
    simp
  simp only [cutWord, hspan]
  rfl

/-- It is read up to the end of the line, if it is in the bounds. -/
theorem readWord_intText {n : Int} (h : isBounded n = true) (rest : List Char) :
    readWord (Json.intText n ++ '\n' :: rest) = some (.integer n, '\n' :: rest) := by
  obtain ⟨c, cs, hcs, hc⟩ := Json.exists_intText_eq_cons n
  have hfirst : c ≠ 't' ∧ c ≠ 'f' := by
    refine ⟨?_, ?_⟩ <;> (rintro rfl; revert hc; decide)
  have hscalar : scalarOfWord (Json.intText n) = some (.integer n) := by
    have htrue : Json.intText n ≠ ['t', 'r', 'u', 'e'] := by
      rw [hcs]
      exact fun heq => hfirst.1 (List.cons.inj heq).1
    have hfalse : Json.intText n ≠ ['f', 'a', 'l', 's', 'e'] := by
      rw [hcs]
      exact fun heq => hfirst.2 (List.cons.inj heq).1
    rw [scalarOfWord, if_neg htrue, if_neg hfalse, integer?_intText]
    exact if_pos h
  rw [readWord, cutWord_line (fun _ => not_endsWord_of_mem_intText)]
  simp only [hscalar, Option.map_some]

/-! ## Scalars -/

/-- A string, or an integer that can be read. -/
def Scalar.IsSimple : Scalar → Prop
  | .string _ => True
  | .integer n => isBounded n = true
  | .float _ | .boolean _ | .time _ => False

/-- A line break is no quote. -/
theorem noQuoteAhead_line (rest : List Char) : NoQuoteAhead ('\n' :: rest) := by
  rintro c ⟨⟩
  decide

/-- The first character of a quoted string is a quote. -/
theorem exists_quoted_eq_cons (s : String) :
    ∃ c cs, quoted s = c :: cs ∧ (c = '"' ∨ c = '\'') := by
  unfold quoted
  dsimp only
  split
  · exact ⟨_, _, rfl, .inl rfl⟩
  · exact ⟨_, _, rfl, .inr rfl⟩
  · exact ⟨_, _, rfl, .inl rfl⟩
  · exact ⟨_, _, rfl, .inr rfl⟩

/-- A scalar is written from a character on that begins no gap, comment, array or table. -/
theorem Scalar.IsSimple.exists_toText_eq_cons {s : Scalar} (h : s.IsSimple) :
    ∃ c cs, s.toText = c :: cs ∧ (c = '"' ∨ c = '\'' ∨ c = '-' ∨ c.isDigit = true) := by
  cases s with
  | string s =>
    obtain ⟨c, cs, hcs, hc⟩ := exists_quoted_eq_cons s
    exact ⟨c, cs, hcs, hc.elim .inl fun hc => .inr (.inl hc)⟩
  | integer n =>
    obtain ⟨c, cs, hcs, hc⟩ := Json.exists_intText_eq_cons n
    exact ⟨c, cs, (toList_toString n).trans hcs, .inr (.inr hc)⟩
  | float _ | boolean _ | time _ => cases h

/-- What starts with no quote is a word. -/
theorem readScalar_of_head {c : Char} (hdouble : c ≠ '"') (hsingle : c ≠ '\'') (cs : List Char) :
    readScalar (c :: cs) = readWord (c :: cs) := by
  unfold readScalar
  split
  · rename_i heq
    exact absurd (List.cons.inj heq).1 hdouble
  · rename_i heq
    exact absurd (List.cons.inj heq).1 hsingle
  · rfl

/-- What starts with no bracket is a scalar. -/
theorem readValue_of_head {c : Char} (harray : c ≠ '[') (hbraces : c ≠ '\x7b') (depth : Nat)
    (cs : List Char) : readValue depth (c :: cs) =
      (readScalar (c :: cs)).map fun (s, rest) => (.scalar s, rest) := by
  cases depth with
  | zero => rfl
  | succ depth =>
    unfold readValue
    split
    · rename_i heq
      exact absurd (List.cons.inj heq).1 harray
    · rename_i heq
      exact absurd (List.cons.inj heq).1 hbraces
    · rfl

/-- A scalar is read back up to the end of its line. -/
theorem readScalar_toText {s : Scalar} (h : s.IsSimple) (rest : List Char) :
    readScalar (s.toText ++ '\n' :: rest) = some (s, '\n' :: rest) := by
  cases s with
  | string s =>
    have hread := readQuoted_quoted s (noQuoteAhead_line rest)
    obtain ⟨c, cs, hcs, hc⟩ := exists_quoted_eq_cons s
    rw [Scalar.toText]
    rw [hcs, List.cons_append] at hread ⊢
    rcases hc with rfl | rfl
    · rw [readScalar, hread]
      rfl
    · rw [readScalar, hread]
      rfl
  | integer n =>
    have hread := readWord_intText h rest
    obtain ⟨c, cs, hcs, hc⟩ := Json.exists_intText_eq_cons n
    have hquote : c ≠ '"' ∧ c ≠ '\'' := by
      refine ⟨?_, ?_⟩ <;> (rintro rfl; revert hc; decide)
    rw [Scalar.toText, toList_toString]
    rw [hcs, List.cons_append] at hread ⊢
    rw [readScalar_of_head hquote.1 hquote.2, hread]
  | float _ | boolean _ | time _ => cases h

/-- A value that is a scalar is read back, however deep values may be nested. -/
theorem readValue_toText {s : Scalar} (h : s.IsSimple) (depth : Nat) (rest : List Char) :
    readValue depth (s.toText ++ '\n' :: rest) = some (.scalar s, '\n' :: rest) := by
  have hread := readScalar_toText h rest
  obtain ⟨c, cs, hcs, hc⟩ := h.exists_toText_eq_cons
  have hbracket : c ≠ '[' ∧ c ≠ '\x7b' := by
    refine ⟨?_, ?_⟩ <;> (rintro rfl; revert hc; decide)
  rw [hcs, List.cons_append] at hread ⊢
  rw [readValue_of_head hbracket.1 hbracket.2, hread]
  rfl

end ChatArchive.Toml
