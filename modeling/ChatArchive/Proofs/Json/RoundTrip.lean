import ChatArchive.Proofs.Json.Spelling
import ChatArchive.Proofs.Text.Digits
import Mathlib.Tactic.SplitIfs

/-!
# Reading what was written

A text that spells a node is read as the tree of the node (`readDocument_of_spells`).  Strings may
hold any characters (`readString_escaped`), and integers may be any of 64 bits
(`readNumber_intText`); of floating-point numbers nothing is said.

The reader counts its steps down from a bound.  Two steps for each character that was written are
enough for every node (`readRaw_of_spells`).
-/

namespace ChatArchive.Json

open Text (NoDigitAhead appendDigits)

/-! ## Nodes as trees -/

mutual

/-- A node as a tree. -/
def Node.toRaw : Node → Raw
  | .null => .null
  | .bool b => .bool b
  | .num n => .num n
  | .str s => .str s
  | .arr items => .arr (Node.toRaws items) .closed
  | .obj members => .obj (Node.toRawMembers members) .closed

/-- The values that a reader makes of the texts of some nodes. -/
def Node.toRaws : List Node → List Raw
  | [] => []
  | n :: ns => n.toRaw :: Node.toRaws ns

/-- The members that a reader makes of the texts of some members. -/
def Node.toRawMembers : List (String × Node) → List (Except Fault String × Raw)
  | [] => []
  | (k, n) :: ms => (.ok k, n.toRaw) :: Node.toRawMembers ms

end

/-! ## Strings -/

/-- A digit in base 16 is read as the number that it was written for. -/
theorem hexDigit?_hexDigit :
    ∀ n < 16, Unicode.CharSet.hexDigit? (hexDigit n) = some n := by decide

/-- A character below 256 is read from its two last hexadecimal digits. -/
theorem readHexEscape_two {n : Nat} (h : n < 256) (rest : List Char) :
    readHexEscape ('0' :: '0' :: hexDigit (n / 16) :: hexDigit (n % 16) :: rest) =
      .ok (Char.ofNat n, rest) := by
  have hhigh := hexDigit?_hexDigit (n / 16) (by omega)
  have hlow := hexDigit?_hexDigit (n % 16) (by omega)
  have hzero : Unicode.CharSet.hexDigit? '0' = some 0 := rfl
  have hvalue : 0 * 4096 + 0 * 256 + n / 16 * 16 + n % 16 = n := by omega
  have hread : readHex4 ('0' :: '0' :: hexDigit (n / 16) :: hexDigit (n % 16) :: rest) =
      .ok (n, rest) := by simp only [readHex4, hzero, hhigh, hlow, hvalue]
  have htrailing : ¬(0xDC00 ≤ n ∧ n ≤ 0xDFFF) := by omega
  have hleading : ¬(0xD800 ≤ n ∧ n ≤ 0xDBFF) := by omega
  simp only [readHexEscape, hread, bind, Except.bind, if_neg htrailing, if_neg hleading]

/-- A character of a string is read in one step, however it is written. -/
theorem readString_escapeChar (bound : Nat) (out : List Char) (c : Char) (rest : List Char) :
    readString (bound + 1) out (escapeChar c ++ rest) = readString bound (c :: out) rest := by
  unfold escapeChar
  split_ifs with hquote hslash hn hr ht hb hf hcontrol
  · subst hquote; rfl
  · subst hslash; rfl
  · subst hn; rfl
  · subst hr; rfl
  · subst ht; rfl
  · subst hb; rfl
  · subst hf; rfl
  · have hread := readHexEscape_two (Nat.lt_trans hcontrol (by decide)) rest
    rw [Char.ofNat_toNat] at hread
    simp only [List.cons_append, List.nil_append, readString, hread, bind, Except.bind]
  · rw [List.singleton_append, readString]
    · exact if_neg hcontrol
    · exact hquote
    · exact hslash

/-- The end of a string, after characters that were read before. -/
theorem readString_quoted {bound : Nat} {cs : List Char} (h : cs.length < bound)
    (out rest : List Char) :
    readString bound out (cs.flatMap escapeChar ++ '"' :: rest) =
      .ok (String.ofList (out.reverse ++ cs), rest) := by
  induction cs generalizing bound out with
  | nil =>
    obtain ⟨k, rfl⟩ := Nat.exists_eq_add_of_lt h
    simp [readString]
  | cons c cs ih =>
    cases bound with
    | zero => exact absurd h (Nat.not_lt_zero _)
    | succ bound =>
      rw [List.flatMap_cons, List.append_assoc, readString_escapeChar,
        ih (Nat.lt_of_succ_lt_succ h), List.reverse_cons, List.append_assoc, List.singleton_append]

/-- Every character is written as something. -/
theorem escapeChar_ne_nil (c : Char) : escapeChar c ≠ [] := by
  unfold escapeChar
  split_ifs <;> exact List.cons_ne_nil _ _

/-- What is written of a string is no shorter than the string. -/
theorem length_le_length_escaped (cs : List Char) :
    cs.length ≤ (cs.flatMap escapeChar).length := by
  induction cs with
  | nil => exact Nat.le_refl 0
  | cons c cs ih =>
    have hc := List.length_pos_iff.mpr (escapeChar_ne_nil c)
    rw [List.flatMap_cons, List.length_append, List.length_cons]
    omega

/-- A string is read to its end. -/
theorem readString_escaped (s : String) (rest : List Char) :
    readString ((s.toList.flatMap escapeChar ++ '"' :: rest).length + 1) []
      (s.toList.flatMap escapeChar ++ '"' :: rest) = .ok (s, rest) := by
  have hlength := length_le_length_escaped s.toList
  rw [readString_quoted (by rw [List.length_append]; omega), List.reverse_nil, List.nil_append,
    String.ofList_toList]

/-! ## Numbers -/

/-- Nothing that could belong to a number begins the text. -/
def EndsNumber (cs : List Char) : Prop :=
  ∀ c ∈ cs.head?, c.isDigit = false ∧ c ≠ '.' ∧ c ≠ 'e' ∧ c ≠ 'E'

/-- What ends a number is no digit. -/
theorem EndsNumber.noDigitAhead {cs : List Char} (h : EndsNumber cs) : NoDigitAhead cs :=
  fun c hc => (h c hc).1

/-- Digits are taken as long as what they denote fits. -/
theorem takeSignificand_digits {ds rest : List Char} (hds : ∀ c ∈ ds, c.isDigit = true)
    (hrest : NoDigitAhead rest) {n : Nat} (hfits : appendDigits n ds < Word.size 64) (taken : Nat) :
    takeSignificand n taken (ds ++ rest) = (appendDigits n ds, taken + ds.length, rest) := by
  induction ds generalizing n taken with
  | nil =>
    cases rest with
    | nil => rfl
    | cons c rest =>
      have hc : c.isDigit = false := hrest c rfl
      simp [takeSignificand, hc, appendDigits]
  | cons d ds ih =>
    have hd : d.isDigit = true := hds d List.mem_cons_self
    have hmore : appendDigits (n * 10 + digitValue d) ds < Word.size 64 := hfits
    have hfirst := Nat.lt_of_le_of_lt (Text.le_appendDigits _ ds) hmore
    rw [List.cons_append, takeSignificand, if_pos hd, if_pos hfirst,
      ih (fun c hc => hds c (List.mem_cons_of_mem _ hc)) hmore, List.length_cons, Nat.add_assoc,
      Nat.add_comm 1]
    rfl

/-- Where no digit is ahead, no number goes on. -/
theorem not_startsWithDigit {cs : List Char} (h : NoDigitAhead cs) :
    startsWithDigit cs = false := by
  cases cs with
  | nil => rfl
  | cons c cs => exact h c rfl

/-- The digits of a number that fits are read as that number. -/
theorem readUnsigned_toDigits {n : Nat} (hn : n < Word.size 64) {rest : List Char}
    (hrest : EndsNumber rest) (negative : Bool) :
    readUnsigned negative (Nat.toDigits 10 n ++ rest) =
      .ok (readUnsigned.whole negative n, rest) := by
  have hnumber := Text.appendDigits_toDigits n
  have hdigits : ∀ c ∈ Nat.toDigits 10 n, c.isDigit = true :=
    fun _ hmem => Text.isDigit_of_mem_toDigits hmem
  have htake := takeSignificand_digits hdigits hrest.noDigitAhead (hnumber.symm ▸ hn) 0
  have hstop := not_startsWithDigit hrest.noDigitAhead
  obtain ⟨d, ds, hds, hd⟩ := Text.exists_toDigits_eq_cons n
  have hzero : ¬(d = '0' ∧ startsWithDigit (ds ++ rest) = true) := by
    rintro ⟨rfl, hmore⟩
    rw [Text.toDigits_eq_zero_cons hds, List.nil_append, hstop] at hmore
    exact Bool.false_ne_true hmore
  rw [hnumber, hds, List.cons_append] at htake
  rw [hds, List.cons_append, readUnsigned, hd, Bool.not_true, if_neg Bool.false_ne_true,
    if_neg hzero, htake]
  simp only [hstop, Bool.false_eq_true, if_false]
  cases rest with
  | nil => rfl
  | cons c rest =>
    obtain ⟨-, hpoint, he, hE⟩ := hrest c rfl
    split
    · rename_i heq
      exact absurd (List.cons.inj heq).1 hpoint
    · rename_i heq
      obtain ⟨rfl, rfl⟩ := List.cons.inj heq
      exact if_neg (not_or.mpr ⟨he, hE⟩)
    · contradiction

/-- An integer begins with a sign or a digit. -/
theorem exists_intText_eq_cons (n : Int) :
    ∃ c cs, intText n = c :: cs ∧ (c = '-' ∨ c.isDigit = true) := by
  unfold intText
  split_ifs
  · exact ⟨_, _, rfl, .inl rfl⟩
  · obtain ⟨d, ds, hds, hd⟩ := Text.exists_toDigits_eq_cons n.natAbs
    exact ⟨d, ds, hds, .inr hd⟩

/-- An integer of 64 bits is read as it was written. -/
theorem readNumber_intText {n : Int} (hn : Word.holds 64 n = true) {rest : List Char}
    (hrest : EndsNumber rest) : readNumber (intText n ++ rest) = .ok (.int n, rest) := by
  rw [Word.holds, Bool.and_eq_true, decide_eq_true_iff, decide_eq_true_iff] at hn
  have hsize : Word.size 64 = 2 * Word.size 63 := rfl
  have hleast : Word.minInt 64 = -(Word.size 63 : Int) := rfl
  have hgreatest : Word.maxNat 64 = Word.size 64 - 1 := rfl
  have hpos : 0 < Word.size 63 := by decide
  have hread := readUnsigned_toDigits (n := n.natAbs) (by omega) hrest
  unfold intText
  split_ifs with hneg
  · have hwhole : readUnsigned.whole true n.natAbs = .int n := by
      have hinside : ¬(n.natAbs = 0 ∨ Word.size 63 < n.natAbs) := by omega
      have hn : -(n.natAbs : Int) = n := by omega
      rw [readUnsigned.whole, Bool.not_true, if_neg Bool.false_ne_true, if_neg hinside, hn]
    rw [List.cons_append, readNumber, hread, hwhole]
  · have hwhole : readUnsigned.whole false n.natAbs = .int n := by
      have hn : (n.natAbs : Int) = n := by omega
      rw [readUnsigned.whole, Bool.not_false, if_pos rfl, hn]
    rw [readNumber, hread, hwhole]
    -- the first digit is no sign
    intro more hsign
    obtain ⟨d, ds, hds, hd⟩ := Text.exists_toDigits_eq_cons n.natAbs
    rw [hds, List.cons_append] at hsign
    rw [(List.cons.inj hsign).1] at hd
    exact absurd hd (by decide)

/-! ## Blanks -/

/-- Nothing is skipped before a character that is no blank. -/
theorem skipBlanks_of_head {c : Char} (h : isJsonBlank c = false) (cs : List Char) :
    skipBlanks (c :: cs) = c :: cs := by
  simp [skipBlanks, h]

/-- A gap is skipped. -/
theorem skipBlanks_gap {gap : List Char} (h : IsGap gap) (cs : List Char) :
    skipBlanks (gap ++ cs) = skipBlanks cs :=
  List.dropWhile_append_of_pos h

/-- Blanks before a value do not matter. -/
theorem readRaw_gap {gap : List Char} (h : IsGap gap) (bound : Nat) (cs : List Char) :
    readRaw bound (gap ++ cs) = readRaw bound cs := by
  cases bound with
  | zero => rw [readRaw, readRaw]
  | succ bound => rw [readRaw, readRaw, skipBlanks_gap h]

/-- Nothing that could belong to a number begins with a blank. -/
theorem not_number_of_isJsonBlank {c : Char} (h : isJsonBlank c = true) :
    c.isDigit = false ∧ c ≠ '.' ∧ c ≠ 'e' ∧ c ≠ 'E' := by
  simp only [isJsonBlank, Bool.or_eq_true, beq_iff_eq] at h
  obtain ((rfl | rfl) | rfl) | rfl := h <;> decide

/-- A number ends at a gap with a mark behind it. -/
theorem endsNumber_gap {gap : List Char} (hgap : IsGap gap) {c : Char}
    (hc : c.isDigit = false ∧ c ≠ '.' ∧ c ≠ 'e' ∧ c ≠ 'E') (cs : List Char) :
    EndsNumber (gap ++ c :: cs) := by
  intro d hd
  cases gap with
  | nil =>
    obtain rfl := Option.some.inj hd
    exact hc
  | cons b gap =>
    obtain rfl := Option.some.inj hd
    exact not_number_of_isJsonBlank (hgap _ List.mem_cons_self)

/-! ## Simple values -/

/-- A node begins with a character that is neither blank nor the end of something. -/
theorem Spells.exists_eq_cons {n : Node} {cs : List Char} (h : Spells n cs) :
    ∃ c ds, cs = c :: ds ∧ isJsonBlank c = false ∧ c ≠ ']' := by
  cases h with
  | null => exact ⟨_, _, rfl, rfl, by decide⟩
  | bool b => cases b <;> exact ⟨_, _, rfl, rfl, by decide⟩
  | @int x hx =>
    obtain ⟨c, ds, hcs, hc⟩ := exists_intText_eq_cons x
    refine ⟨c, ds, hcs, ?_, ?_⟩
    · cases hblank : isJsonBlank c with
      | false => rfl
      | true =>
        obtain ⟨hdigit, -⟩ := not_number_of_isJsonBlank hblank
        obtain rfl : c = '-' := hc.resolve_right (by simp [hdigit])
        cases hblank
    · rintro rfl
      exact absurd hc (by decide)
  | str s => exact ⟨_, _, rfl, rfl, by decide⟩
  | arr h => exact ⟨_, _, rfl, rfl, by decide⟩
  | obj h => exact ⟨_, _, rfl, rfl, by decide⟩

/-- A text is read from its quotes. -/
theorem readRaw_str (bound : Nat) (s : String) (rest : List Char) :
    readRaw (bound + 1) (quote s ++ rest) = (.str s, some rest) := by
  rw [quote, List.cons_append, List.append_assoc, List.singleton_append, readRaw,
    skipBlanks_of_head rfl]
  simp only [readString_escaped, partOf, Char.reduceEq, if_false, if_true]

/-- A number of 64 bits is read from its digits, up to where it ends. -/
theorem readRaw_int {n : Int} (hn : Word.holds 64 n = true) (bound : Nat) {rest : List Char}
    (hrest : EndsNumber rest) :
    readRaw (bound + 1) (intText n ++ rest) = (.num (.int n), some rest) := by
  obtain ⟨c, cs, hcs, hblank, -⟩ := (Spells.int hn).exists_eq_cons
  obtain ⟨d, ds, hds, hd⟩ := exists_intText_eq_cons n
  have hread := readNumber_intText hn hrest
  obtain ⟨rfl, rfl⟩ := List.cons.inj (hcs.symm.trans hds)
  rw [hcs, List.cons_append] at hread ⊢
  have hword : c ≠ 'n' ∧ c ≠ 't' ∧ c ≠ 'f' ∧ c ≠ '"' := by
    refine ⟨?_, ?_, ?_, ?_⟩ <;> rintro rfl <;> exact absurd hd (by decide)
  rw [readRaw, skipBlanks_of_head hblank]
  simp only [hword, if_false, if_pos hd, hread, partOf]

/-! ## Arrays and objects -/

/-- A comma or a blank or the end follows an item. -/
theorem SpellsItems.endsNumber {ns : List Node} {cs : List Char} (h : SpellsItems false ns cs)
    (rest : List Char) : EndsNumber (cs ++ ']' :: rest) := by
  cases h with
  | nil _ hgap => exact endsNumber_gap hgap (by decide) rest
  | cons _ hgap hitem hrest => exact endsNumber_gap isGap_nil (c := ',') (by decide) _

/-- A number before further members, or before the end of its object, ends there. -/
theorem SpellsMembers.endsNumber {ms : List (String × Node)} {cs : List Char}
    (h : SpellsMembers false ms cs) (rest : List Char) : EndsNumber (cs ++ '\x7d' :: rest) := by
  cases h with
  | nil _ hgap => exact endsNumber_gap hgap (by decide) rest
  | cons _ k hgap hspace hvalue hrest => exact endsNumber_gap isGap_nil (c := ',') (by decide) _

/-- An item is read after those before it. -/
theorem readItems_item {bound : Nat} {done : List Raw} {gap cs rest : List Char} {c : Char}
    {item : Raw} (hgap : IsGap gap) (hblank : isJsonBlank c = false) (hclose : c ≠ ']')
    (hread : readRaw bound (c :: cs) = (item, some rest)) :
    readItems (bound + 2) done (separator done.isEmpty gap ++ c :: cs) =
      readItems bound (item :: done) rest := by
  have hitem : readItem (bound + 1) done (c :: cs) = readItems bound (item :: done) rest := by
    rw [readItem, hread]
  cases done with
  | nil =>
    rw [List.isEmpty_nil, separator, if_pos rfl, List.nil_append, readItems, skipBlanks_gap hgap,
      skipBlanks_of_head hblank]
    simp only [if_neg hclose, List.isEmpty_nil, if_true, hitem]
  | cons before done =>
    rw [List.isEmpty_cons, separator, if_neg Bool.false_ne_true, List.singleton_append,
      List.cons_append, readItems, skipBlanks_of_head rfl]
    simp only [Char.reduceEq, if_false, List.isEmpty_cons, Bool.false_eq_true, if_true,
      skipBlanks_gap hgap, skipBlanks_of_head hblank, if_neg hclose, hitem]

/-- A list ends at its bracket. -/
theorem readItems_close (bound : Nat) (done : List Raw) {gap : List Char} (hgap : IsGap gap)
    (rest : List Char) :
    readItems (bound + 1) done (gap ++ ']' :: rest) =
      (.arr done.reverse .closed, some rest) := by
  rw [readItems, skipBlanks_gap hgap, skipBlanks_of_head rfl]
  rfl

/-- A member is read after those before it. -/
theorem readMembers_member {bound : Nat} {done : List (Except Fault String × Raw)} {k : String}
    {gap space cs rest : List Char} {value : Raw} (hgap : IsGap gap) (hspace : IsGap space)
    (hread : readRaw bound cs = (value, some rest)) :
    readMembers (bound + 2) done
        (separator done.isEmpty gap ++ (quote k ++ ':' :: (space ++ cs))) =
      readMembers bound ((.ok k, value) :: done) rest := by
  have hmember :
      readMember (bound + 1) done (k.toList.flatMap escapeChar ++ '"' :: ':' :: (space ++ cs)) =
        readMembers bound ((.ok k, value) :: done) rest := by
    simp only [readMember, readString_escaped, skipBlanks_of_head (c := ':') rfl,
      readRaw_gap hspace, hread]
  rw [quote, List.cons_append, List.append_assoc, List.singleton_append]
  cases done with
  | nil =>
    rw [List.isEmpty_nil, separator, if_pos rfl, List.nil_append, readMembers, skipBlanks_gap hgap,
      skipBlanks_of_head rfl]
    simp only [Char.reduceEq, if_false, List.isEmpty_nil, if_true, hmember]
  | cons before done =>
    rw [List.isEmpty_cons, separator, if_neg Bool.false_ne_true, List.singleton_append,
      List.cons_append, readMembers, skipBlanks_of_head rfl]
    simp only [Char.reduceEq, if_false, List.isEmpty_cons, Bool.false_eq_true, if_true,
      skipBlanks_gap hgap, skipBlanks_of_head (c := '"') rfl, hmember]

/-- An object ends at its brace. -/
theorem readMembers_close (bound : Nat) (done : List (Except Fault String × Raw))
    {gap : List Char} (hgap : IsGap gap) (rest : List Char) :
    readMembers (bound + 1) done (gap ++ '\x7d' :: rest) =
      (.obj done.reverse .closed, some rest) := by
  rw [readMembers, skipBlanks_gap hgap, skipBlanks_of_head rfl]
  rfl

mutual

/-- A node is read as it was written, whatever follows it. -/
theorem readRaw_of_spells (n : Node) {cs : List Char} (h : Spells n cs) (bound : Nat)
    {rest : List Char} (hrest : EndsNumber rest) (hbound : 2 * cs.length < bound) :
    readRaw bound (cs ++ rest) = (n.toRaw, some rest) := by
  obtain ⟨bound, rfl⟩ : ∃ k, bound = k + 1 := ⟨bound - 1, by omega⟩
  match n, h with
  | .null, .null => rfl
  | .bool b, .bool _ => cases b <;> rfl
  | .num _, .int hn => exact readRaw_int hn bound hrest
  | .str s, .str _ => exact readRaw_str bound s rest
  | .arr ns, @Spells.arr _ cs h =>
    rw [List.length_cons, List.length_append, List.length_singleton] at hbound
    rw [List.cons_append, List.append_assoc, List.singleton_append, readRaw,
      skipBlanks_of_head rfl]
    simp only [Char.reduceEq, if_false, if_true, false_or]
    exact readItems_of_spells ns [] h bound rest (by omega)
  | .obj ms, @Spells.obj _ cs h =>
    rw [List.length_cons, List.length_append, List.length_singleton] at hbound
    rw [List.cons_append, List.append_assoc, List.singleton_append, readRaw,
      skipBlanks_of_head rfl]
    simp only [Char.reduceEq, if_false, if_true, false_or]
    exact readMembers_of_spells ms [] h bound rest (by omega)

/-- The items of an array are read after those before them. -/
theorem readItems_of_spells (ns : List Node) (done : List Raw) {cs : List Char}
    (h : SpellsItems done.isEmpty ns cs) (bound : Nat) (rest : List Char)
    (hbound : 2 * cs.length + 2 < bound) :
    readItems bound done (cs ++ ']' :: rest) =
      (.arr (done.reverse ++ Node.toRaws ns) .closed, some rest) := by
  match ns, h with
  | [], .nil _ hgap =>
    obtain ⟨bound, rfl⟩ : ∃ k, bound = k + 1 := ⟨bound - 1, by omega⟩
    rw [readItems_close bound done hgap, Node.toRaws, List.append_nil]
  | n :: ns, @SpellsItems.cons _ _ _ gap item more hgap hitem hmore =>
    rw [List.length_append, List.length_append] at hbound
    obtain ⟨bound, rfl⟩ : ∃ k, bound = k + 2 := ⟨bound - 2, by omega⟩
    obtain ⟨c, ds, rfl, hblank, hclose⟩ := hitem.exists_eq_cons
    rw [List.length_cons] at hbound
    have hread := readRaw_of_spells n hitem bound (hmore.endsNumber rest)
      (by rw [List.length_cons]; omega)
    rw [List.cons_append] at hread
    have hrest := readItems_of_spells ns (n.toRaw :: done) hmore bound rest (by omega)
    rw [List.append_assoc, List.append_assoc, List.cons_append,
      readItems_item hgap hblank hclose hread, hrest, Node.toRaws, List.reverse_cons,
      List.append_assoc, List.singleton_append]

/-- The members of an object are read after those before them. -/
theorem readMembers_of_spells (ms : List (String × Node))
    (done : List (Except Fault String × Raw)) {cs : List Char}
    (h : SpellsMembers done.isEmpty ms cs) (bound : Nat) (rest : List Char)
    (hbound : 2 * cs.length + 2 < bound) :
    readMembers bound done (cs ++ '\x7d' :: rest) =
      (.obj (done.reverse ++ Node.toRawMembers ms) .closed, some rest) := by
  match ms, h with
  | [], .nil _ hgap =>
    obtain ⟨bound, rfl⟩ : ∃ k, bound = k + 1 := ⟨bound - 1, by omega⟩
    rw [readMembers_close bound done hgap, Node.toRawMembers, List.append_nil]
  | (k, n) :: ms, @SpellsMembers.cons _ _ _ _ gap space value more hgap hspace hvalue hmore =>
    rw [List.length_append, List.length_append, List.length_cons, List.length_append,
      List.length_append] at hbound
    obtain ⟨bound, rfl⟩ : ∃ k, bound = k + 2 := ⟨bound - 2, by omega⟩
    have hread := readRaw_of_spells n hvalue bound (hmore.endsNumber rest) (by omega)
    have hrest :=
      readMembers_of_spells ms ((.ok k, n.toRaw) :: done) hmore bound rest (by omega)
    rw [List.append_assoc, List.append_assoc, List.cons_append, List.append_assoc,
      List.append_assoc, readMembers_member hgap hspace hread, hrest, Node.toRawMembers,
      List.reverse_cons, List.append_assoc, List.singleton_append]

end

/-- A text that spells a node is read as the tree of the node. -/
theorem readDocument_of_spells {n : Node} {cs : List Char} (h : Spells n cs) :
    readDocument cs = (n.toRaw, some []) := by
  have hends : EndsNumber [] := by simp [EndsNumber]
  have hread := readRaw_of_spells n h (4 * cs.length + 4) hends (by omega)
  rw [List.append_nil] at hread
  exact hread

end ChatArchive.Json
