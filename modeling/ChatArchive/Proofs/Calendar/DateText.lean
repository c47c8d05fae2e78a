import ChatArchive.Proofs.Calendar.Order
import ChatArchive.Proofs.Calendar.RoundTrip
import Mathlib.Data.String.Basic

/-!
# Texts that denote dates

The strict form of a date is four digits, two digits and two digits with hyphens between them
(`IsStrictDate`).  The reader takes a loose one: blanks may stand before each number, month and day
may have one digit, and the year may have fewer than four, or a sign and any number of them
(`IsLooseDate`).  Only the size of the text is fixed, at ten bytes, so that a text in the loose form
denotes a date exactly if it has that size (`ofText_by_form`).

Of the texts that have no blank and do not begin with a sign just those in the strict form have
both; but a blank or a sign may take the place of a digit that is left out.
-/

namespace ChatArchive.Calendar

open Text

/-! ## Forms of dates -/

/-- A year, a month and a day with hyphens between them; `year` and `field` are the forms of the
numbers. -/
def IsDateText (year : List Char → Int → Prop) (field : List Char → Nat → Prop) (cs : List Char)
    (c : Civil) : Prop :=
  ∃ ys ms ds, cs = ys ++ '-' :: (ms ++ '-' :: ds) ∧
    year ys c.year ∧ field ms c.month ∧ field ds c.day

/-- Just so many digits. -/
def IsFixed (width : Nat) (ds : List Char) (n : Nat) : Prop := IsNumeral ds n ∧ ds.length = width

/-- The strict form: four digits, two digits and two digits. -/
def IsStrictDate : List Char → Civil → Prop :=
  IsDateText (fun ds year => ∃ n : Nat, year = n ∧ IsFixed 4 ds n) (IsFixed 2)

/-- Blanks, if there are any, and then a text of a form. -/
def AfterBlanks {α : Type} (form : List Char → α → Prop) (cs : List Char) (value : α) : Prop :=
  ∃ blanks ds, cs = blanks ++ ds ∧ (∀ c ∈ blanks, isBlank c = true) ∧ form ds value

/-- At most two digits. -/
def IsShort (ds : List Char) (n : Nat) : Prop := IsNumeral ds n ∧ ds.length ≤ 2

/-- At most four digits, or a sign and any number of them. -/
inductive IsYear : List Char → Int → Prop where
  | bare {ds : List Char} {n : Nat} : IsNumeral ds n → ds.length ≤ 4 → IsYear ds n
  | minus {ds : List Char} {n : Nat} : IsNumeral ds n → IsYear ('-' :: ds) (-n)
  | plus {ds : List Char} {n : Nat} : IsNumeral ds n → IsYear ('+' :: ds) n

/-- The loose form: blanks may stand before the numbers, which may have fewer digits. -/
def IsLooseDate : List Char → Civil → Prop := IsDateText (AfterBlanks IsYear) (AfterBlanks IsShort)

/-- A text with no blank and no sign in front. -/
structure IsPlain (cs : List Char) : Prop where
  solid : ∀ c ∈ cs, isBlank c = false
  no_minus : cs.head? ≠ some '-'
  no_plus : cs.head? ≠ some '+'

/-- There need not be any blanks. -/
theorem AfterBlanks.self {α : Type} {form : List Char → α → Prop} {cs : List Char} {value : α}
    (h : form cs value) : AfterBlanks form cs value := ⟨[], cs, rfl, nofun, h⟩

/-- The strict form is a case of the loose one. -/
theorem IsStrictDate.isLooseDate {cs : List Char} {c : Civil} (h : IsStrictDate cs c) :
    IsLooseDate cs c := by
  obtain ⟨ys, ms, ds, hcs, ⟨n, hn, hyear, hwidth⟩, ⟨hmonth, hmonth'⟩, hday, hday'⟩ := h
  exact ⟨ys, ms, ds, hcs, .self (hn ▸ .bare hyear hwidth.le), .self ⟨hmonth, hmonth'.le⟩,
    .self ⟨hday, hday'.le⟩⟩

/-! ## What the readers take -/

section

variable {α β : Type} {cs rest : List Char}

/-- Two readers in a row come to a result if the first does and the second goes on from there. -/
theorem bind_eq_ok {x : Except TimeFault α} {f : α → Except TimeFault β} {b : β} :
    x >>= f = .ok b ↔ ∃ a, x = .ok a ∧ f a = .ok b := by
  cases x with
  | error e => simp [bind, Except.bind]
  | ok a => simp [bind, Except.bind]

/-- A mark is only taken where it stands. -/
theorem expectMark_eq_ok {mark : Char} (h : expectMark mark cs = .ok rest) : cs = mark :: rest := by
  cases cs with
  | nil => cases h
  | cons c cs =>
    rw [expectMark] at h
    split_ifs at h with hc
    · cases h
      rw [hc]

/-- Digits in front of a text are a numeral. -/
theorem isNumeral_of_prefix {ds : List Char} (h : ds <+: cs.takeWhile Char.isDigit)
    (hne : ds ≠ []) : cs = ds ++ cs.drop ds.length ∧ IsNumeral ds (appendDigits 0 ds) :=
  ⟨List.prefix_iff_eq_append.mp (h.trans (List.takeWhile_prefix _)) |>.symm,
    fun _ hd => List.mem_takeWhile_imp (h.subset hd), hne, rfl⟩

/-- What is read as a number is a numeral. -/
theorem readDigits_eq_ok {width : Option Nat} {n : Nat} (hwidth : ∀ most ∈ width, 0 < most)
    (h : readDigits width cs = .ok (n, rest)) :
    ∃ ds, cs = ds ++ rest ∧ IsNumeral ds n ∧ ∀ most ∈ width, ds.length ≤ most := by
  cases cs with
  | nil => cases h
  | cons c cs =>
    have hrun : c.isDigit = true → (c :: cs).takeWhile Char.isDigit ≠ [] := by
      intro hc
      rw [List.takeWhile_cons_of_pos hc]
      exact List.cons_ne_nil _ _
    cases width with
    | none =>
      simp only [readDigits] at h
      split_ifs at h with hdigit hgreat
      obtain ⟨rfl, rfl⟩ := Prod.mk.inj (Except.ok.inj h)
      obtain ⟨hcs, hds⟩ := isNumeral_of_prefix (List.prefix_refl _) (hrun (by simpa using hdigit))
      exact ⟨_, hcs, hds, by simp⟩
    | some most =>
      simp only [readDigits] at h
      split_ifs at h with hdigit hgreat
      obtain ⟨rfl, rfl⟩ := Prod.mk.inj (Except.ok.inj h)
      have hne : ((c :: cs).takeWhile Char.isDigit).take most ≠ [] := by
        rw [ne_eq, List.take_eq_nil_iff, not_or]
        exact ⟨(hwidth most rfl).ne', hrun (by simpa using hdigit)⟩
      obtain ⟨hcs, hds⟩ := isNumeral_of_prefix (List.take_prefix _ _) hne
      exact ⟨_, hcs, hds, fun _ hmost => Option.some.inj hmost ▸ List.length_take_le _ _⟩

/-- Blanks before a text are passed over. -/
theorem exists_blanks (cs : List Char) :
    ∃ blanks, cs = blanks ++ trimStart cs ∧ ∀ c ∈ blanks, isBlank c = true :=
  ⟨cs.takeWhile isBlank, List.takeWhile_append_dropWhile.symm, fun _ => List.mem_takeWhile_imp⟩

/-- A number that was read is what stands in front, behind its blanks. -/
theorem readField_eq_ok {low high n : Nat} (h : readField low high cs = .ok (n, rest)) :
    ∃ ds, cs = ds ++ rest ∧ AfterBlanks IsShort ds n := by
  obtain ⟨⟨m, left⟩, hdigits, hbounds⟩ := bind_eq_ok.mp h
  dsimp only at hbounds
  split_ifs at hbounds
  obtain ⟨rfl, rfl⟩ := Prod.mk.inj (Except.ok.inj hbounds)
  obtain ⟨blanks, hcs, hblanks⟩ := exists_blanks cs
  obtain ⟨ds, htrim, hds, hlength⟩ := readDigits_eq_ok (by rintro _ ⟨⟩; decide) hdigits
  exact ⟨blanks ++ ds, by rw [hcs, htrim, List.append_assoc], blanks, ds, rfl, hblanks, hds,
    hlength 2 rfl⟩

/-- The number of a year is that of its digits, with the sign that `signed` gives it. -/
theorem signed_eq_ok {width : Option Nat} (signed : Nat → Int) {year : Int}
    (h : (do
      let (y, left) ← (readDigits width cs).map fun (n, left) => (signed n, left)
      if Word.holdsInt 32 y then .ok (y, left) else .error .outOfRange) = Except.ok (year, rest)) :
    ∃ n, readDigits width cs = .ok (n, rest) ∧ signed n = year := by
  obtain ⟨⟨y, left⟩, hdigits, hbounds⟩ := bind_eq_ok.mp h
  dsimp only at hbounds
  split_ifs at hbounds
  obtain ⟨rfl, rfl⟩ := Prod.mk.inj (Except.ok.inj hbounds)
  cases hread : readDigits width cs with
  | error e => simp [hread, Except.map] at hdigits
  | ok r =>
    simp only [hread, Except.map, Except.ok.injEq, Prod.mk.injEq] at hdigits
    exact ⟨r.1, by rw [← hdigits.2], hdigits.1⟩

/-- A year that was read is what stands in front, behind its blanks. -/
theorem readYear_eq_ok {year : Int} (h : readYear cs = .ok (year, rest)) :
    ∃ ys, cs = ys ++ rest ∧ AfterBlanks IsYear ys year := by
  obtain ⟨blanks, hcs, hblanks⟩ := exists_blanks cs
  suffices hyear : ∃ ys, trimStart cs = ys ++ rest ∧ IsYear ys year by
    obtain ⟨ys, htrim, hyear⟩ := hyear
    exact ⟨blanks ++ ys, by rw [hcs, htrim, List.append_assoc], blanks, ys, rfl, hblanks, hyear⟩
  rw [readYear] at h
  split at h
  · rename_i tail htail
    obtain ⟨n, hread, rfl⟩ := signed_eq_ok (fun n => -(n : Int)) h
    obtain ⟨ds, rfl, hds, -⟩ := readDigits_eq_ok (by rintro _ ⟨⟩) hread
    exact ⟨'-' :: ds, htail, .minus hds⟩
  · rename_i tail htail
    obtain ⟨n, hread, rfl⟩ := signed_eq_ok (fun n => (n : Int)) h
    obtain ⟨ds, rfl, hds, -⟩ := readDigits_eq_ok (by rintro _ ⟨⟩) hread
    exact ⟨'+' :: ds, htail, .plus hds⟩
  · obtain ⟨n, hread, rfl⟩ := signed_eq_ok (fun n => (n : Int)) h
    obtain ⟨ds, htrim, hds, hlength⟩ := readDigits_eq_ok (by rintro _ ⟨⟩; decide) hread
    exact ⟨ds, htrim, .bare hds (hlength 4 rfl)⟩

/-- What is read as a date has the loose form. -/
theorem readCivil_eq_ok {c : Civil} (h : readCivil id cs = .ok (c, rest)) :
    ∃ text, cs = text ++ rest ∧ IsLooseDate text c := by
  obtain ⟨⟨year, cs₁⟩, hyear, h⟩ := bind_eq_ok.mp h
  obtain ⟨cs₂, hmark, h⟩ := bind_eq_ok.mp h
  obtain ⟨⟨month, cs₃⟩, hmonth, h⟩ := bind_eq_ok.mp h
  obtain ⟨cs₄, hmark', h⟩ := bind_eq_ok.mp h
  obtain ⟨⟨day, cs₅⟩, hday, h⟩ := bind_eq_ok.mp h
  obtain ⟨rfl, rfl⟩ := Prod.mk.inj (Except.ok.inj h)
  obtain ⟨ys, rfl, hys⟩ := readYear_eq_ok hyear
  obtain rfl := expectMark_eq_ok hmark
  obtain ⟨ms, rfl, hms⟩ := readField_eq_ok hmonth
  obtain rfl := expectMark_eq_ok hmark'
  obtain ⟨ds, rfl, hds⟩ := readField_eq_ok hday
  exact ⟨ys ++ '-' :: (ms ++ '-' :: ds), by simp, ys, ms, ds, rfl, hys, hms, hds⟩

end

/-! ## What the readers are given -/

section

variable {rest : List Char} (hrest : NoDigitAhead rest)
include hrest

/-- A number within its bounds is read, up to what comes behind it. -/
theorem readField_afterBlanks {low high n : Nat} {cs : List Char} (h : AfterBlanks IsShort cs n)
    (hlow : low ≤ n) (hhigh : n ≤ high) : readField low high (cs ++ rest) = .ok (n, rest) := by
  obtain ⟨blanks, ds, rfl, hblanks, hds, hlength⟩ := h
  have hread := readField_numeral hds hlength hlow hhigh hrest
  rw [readField, trimStart_numeral hds] at hread
  rw [readField, List.append_assoc, trimStart_append hblanks, trimStart_numeral hds, hread]

/-- A year without blanks before it is read, up to what comes behind it. -/
theorem readYear_isYear {year : Int} {cs : List Char} (h : IsYear cs year)
    (hyear : year.natAbs < 1000000) : readYear (cs ++ rest) = .ok (year, rest) := by
  cases h with
  | bare hds hlength => exact readYear_numeral hds hlength hrest
  | minus hds => exact readYear_minus hds (by omega) hrest
  | plus hds => exact readYear_plus hds (by omega) hrest

/-- A year is read, up to what comes behind it. -/
theorem readYear_afterBlanks {year : Int} {cs : List Char} (h : AfterBlanks IsYear cs year)
    (hyear : year.natAbs < 1000000) : readYear (cs ++ rest) = .ok (year, rest) := by
  obtain ⟨blanks, ys, rfl, hblanks, hys⟩ := h
  have hread := readYear_isYear hrest hys hyear
  have htrim : trimStart (ys ++ rest) = ys ++ rest := by
    cases hys with
    | bare hds => exact trimStart_numeral hds rest
    | minus => rfl
    | plus => rfl
  rw [readYear, htrim] at hread
  rw [readYear, List.append_assoc, trimStart_append hblanks, htrim, hread]

/-- A text in the loose form is read as the date, if there is such a day. -/
theorem readCivil_isLooseDate {c : Civil} {cs : List Char} (h : IsLooseDate cs c)
    (hday : isDay c.year c.month c.day = true) (hyear : c.year.natAbs < 1000000) :
    readCivil id (cs ++ rest) = .ok (c, rest) := by
  obtain ⟨ys, ms, ds, rfl, hys, hms, hds⟩ := h
  obtain ⟨⟨hmonth, hmonth'⟩, hday, hday'⟩ := isDay_bounds hday
  have hdash : ∀ cs, NoDigitAhead ('-' :: cs) := noDigitAhead_cons rfl
  have hreadYear := fun cs => readYear_afterBlanks (hdash cs) hys hyear
  have hreadMonth := fun cs => readField_afterBlanks (hdash cs) hms hmonth hmonth'
  have hreadDay := readField_afterBlanks hrest hds hday hday'
  simp only [List.append_assoc, List.cons_append, readCivil, hreadYear, id, expectMark_self,
    hreadMonth, hreadDay, bind, Except.bind]

end

/-! ## Size -/

/-- In a text of ASCII characters every character takes one byte. -/
theorem utf8ByteSize_of_ascii {text : String} (h : ∀ c ∈ text.toList, c.val ≤ 127) :
    text.utf8ByteSize = text.toList.length := by
  have hsize : ∀ cs : List Char, (∀ c ∈ cs, c.val ≤ 127) →
      (String.ofList cs).utf8ByteSize = cs.length := by
    intro cs hcs
    induction cs with
    | nil => rfl
    | cons c cs ih =>
      have hone := Char.utf8Size_eq_one_iff.mpr (hcs c List.mem_cons_self)
      have hrest := ih fun d hd => hcs d (List.mem_cons_of_mem c hd)
      rw [String.utf8ByteSize_ofList] at hrest ⊢
      rw [String.utf8Len_cons, hrest, hone, List.length_cons]
  rw [← hsize _ h, String.ofList_toList]

/-- In a plain text the blanks and the sign of the loose form are left out. -/
theorem AfterBlanks.of_solid {α : Type} {form : List Char → α → Prop} {cs : List Char} {value : α}
    (h : AfterBlanks form cs value) (hcs : ∀ c ∈ cs, isBlank c = false) : form cs value := by
  obtain ⟨blanks, ds, rfl, hblanks, hds⟩ := h
  cases blanks with
  | nil => exact hds
  | cons b blanks =>
    have hblank := hblanks b List.mem_cons_self
    rw [hcs b (List.mem_append_left _ List.mem_cons_self)] at hblank
    cases hblank

/-- Digits are ASCII characters. -/
theorem ascii_of_isNumeral {ds : List Char} {n : Nat} (h : IsNumeral ds n) :
    ∀ c ∈ ds, c.val ≤ 127 := by
  intro c hc
  have hhigh : c.toNat ≤ '9'.toNat := (Char.isDigit_iff_toNat.mp (h.digits c hc)).2
  have hnine : '9'.toNat = 57 := rfl
  rw [UInt32.le_iff_toNat_le]
  exact hhigh.trans (by decide)

/-- Digits with hyphens between them take one byte each. -/
theorem utf8ByteSize_of_numerals {text : String} {ys ms ds : List Char} {year month day : Nat}
    (htext : text.toList = ys ++ '-' :: (ms ++ '-' :: ds)) (hys : IsNumeral ys year)
    (hms : IsNumeral ms month) (hds : IsNumeral ds day) :
    text.utf8ByteSize = ys.length + ms.length + ds.length + 2 := by
  have hascii : ∀ c ∈ text.toList, c.val ≤ 127 := by
    intro c hc
    rw [htext] at hc
    simp only [List.mem_append, List.mem_cons] at hc
    rcases hc with hc | rfl | hc | rfl | hc
    · exact ascii_of_isNumeral hys c hc
    · decide
    · exact ascii_of_isNumeral hms c hc
    · decide
    · exact ascii_of_isNumeral hds c hc
  rw [utf8ByteSize_of_ascii hascii, htext]
  simp only [List.length_append, List.length_cons]
  omega

/-- A text in the strict form has ten bytes. -/
theorem IsStrictDate.utf8ByteSize {text : String} {c : Civil} (h : IsStrictDate text.toList c) :
    text.utf8ByteSize = 10 := by
  obtain ⟨ys, ms, ds, htext, ⟨n, -, hys, hyears⟩, ⟨hms, hmonths⟩, hds, hdays⟩ := h
  rw [utf8ByteSize_of_numerals htext hys hms hds, hyears, hmonths, hdays]

/-- Four digits are a year between 0 and 9999. -/
theorem IsStrictDate.year_bounds {cs : List Char} {c : Civil} (h : IsStrictDate cs c) :
    0 ≤ c.year ∧ c.year ≤ 9999 := by
  obtain ⟨ys, ms, ds, -, ⟨n, hn, hys, hwidth⟩, -, -⟩ := h
  have hlt := hys.lt_pow
  rw [hwidth] at hlt
  omega

/-- A plain text of ten bytes in the loose form has the strict one: there is no room for fewer
digits. -/
theorem IsLooseDate.isStrictDate {text : String} {c : Civil} (h : IsLooseDate text.toList c)
    (hplain : IsPlain text.toList) (hsize : text.utf8ByteSize = 10) :
    IsStrictDate text.toList c := by
  obtain ⟨ys, ms, ds, htext, hys, hms, hds⟩ := h
  have hsolid := hplain.solid
  simp only [htext, List.mem_append, List.mem_cons] at hsolid
  obtain ⟨hms, hmonths⟩ := hms.of_solid fun c hc => hsolid c (by simp [hc])
  obtain ⟨hds, hdays⟩ := hds.of_solid fun c hc => hsolid c (by simp [hc])
  generalize hyear : c.year = year at hys
  cases hys.of_solid fun c hc => hsolid c (by simp [hc]) with
  | minus => exact absurd (by rw [htext]; rfl) hplain.no_minus
  | plus => exact absurd (by rw [htext]; rfl) hplain.no_plus
  | @bare _ n hnumeral hyears =>
    rw [utf8ByteSize_of_numerals htext hnumeral hms hds] at hsize
    exact ⟨ys, ms, ds, htext, ⟨n, hyear, hnumeral, by omega⟩, ⟨hms, by omega⟩, hds, by omega⟩

end ChatArchive.Calendar

namespace ChatArchive.Date

open Calendar

/-- A text is a date if it has ten bytes and a date can be read that leaves nothing of it. -/
theorem ofText?_eq_some_iff_readCivil {text : String} {d : Date} :
    Date.ofText? text = some d ↔
      text.utf8ByteSize = 10 ∧ readCivil id text.toList = .ok (d.civil, []) := by
  unfold Date.ofText? dateOfText?
  split_ifs with hsize
  · simp [hsize]
  · rw [not_not] at hsize
    split
    · rename_i c hread
      rw [ofCivil?_eq_some, hread]
      simp [hsize, eq_comm]
    · rename_i hread
      refine iff_of_false nofun fun h => hread d.civil h.2

/-- A date that is read has the loose form, and every text of ten bytes in that form is read. -/
theorem ofText?_eq_some_iff_isLooseDate {text : String} {d : Date} :
    Date.ofText? text = some d ↔ text.utf8ByteSize = 10 ∧ IsLooseDate text.toList d.civil := by
  rw [ofText?_eq_some_iff_readCivil]
  refine and_congr_right fun _ => ⟨fun h => ?_, fun h => ?_⟩
  · obtain ⟨cs, hcs, hloose⟩ := readCivil_eq_ok h
    rwa [hcs, List.append_nil]
  · have hread := readCivil_isLooseDate noDigitAhead_nil h (isDay_civilOf d.number)
      (natAbs_year_lt d)
    rwa [List.append_nil] at hread

/-- A text denotes a date exactly if it has ten bytes and the loose form of the date.  The strict
form of every existing day is read; and of the plain texts no others are. -/
theorem ofText_by_form (text : String) :
    (∀ d, Date.ofText? text = some d ↔
      text.utf8ByteSize = 10 ∧ IsLooseDate text.toList d.civil) ∧
    (∀ c, IsStrictDate text.toList c → isDay c.year c.month c.day = true →
      ∃ d, d.civil = c ∧ Date.ofText? text = some d) ∧
    (IsPlain text.toList →
      ∀ d, Date.ofText? text = some d ↔ IsStrictDate text.toList d.civil) := by
  have hstrict : ∀ d, IsStrictDate text.toList d.civil → Date.ofText? text = some d := fun d h =>
    ofText?_eq_some_iff_isLooseDate.mpr ⟨h.utf8ByteSize, h.isLooseDate⟩
  refine ⟨fun d => ofText?_eq_some_iff_isLooseDate, fun c h hday => ?_, fun hplain d => ?_⟩
  · have hyear := h.year_bounds
    obtain ⟨d, rfl⟩ := exists_civil_eq hday (by omega) (by omega)
    exact ⟨d, rfl, hstrict d h⟩
  · refine ⟨fun h => ?_, hstrict d⟩
    obtain ⟨hsize, hloose⟩ := ofText?_eq_some_iff_isLooseDate.mp h
    exact hloose.isStrictDate hplain hsize

/-- The leap day of 2024 is read from its strict form, which is plain. -/
theorem ofText_by_form_of_leapDay :
    IsStrictDate "2024-02-29".toList ⟨2024, 2, 29⟩ ∧ isDay 2024 2 29 = true ∧
      (∃ d, d.civil = ⟨2024, 2, 29⟩ ∧ Date.ofText? "2024-02-29" = some d) ∧
      IsPlain "2024-02-29".toList ∧
      ∀ d, Date.ofText? "2024-02-29" = some d ↔ IsStrictDate "2024-02-29".toList d.civil := by
  have hyear : IsFixed 4 "2024".toList 2024 :=
    ⟨⟨List.all_eq_true.mp rfl, List.cons_ne_nil _ _, rfl⟩, rfl⟩
  have hmonth : IsFixed 2 "02".toList 2 :=
    ⟨⟨List.all_eq_true.mp rfl, List.cons_ne_nil _ _, rfl⟩, rfl⟩
  have hday : IsFixed 2 "29".toList 29 :=
    ⟨⟨List.all_eq_true.mp rfl, List.cons_ne_nil _ _, rfl⟩, rfl⟩
  have hstrict : IsStrictDate "2024-02-29".toList ⟨2024, 2, 29⟩ :=
    ⟨_, _, _, rfl, ⟨2024, rfl, hyear⟩, hmonth, hday⟩
  have hsolid : "2024-02-29".toList.all (!Text.isBlank ·) = true := rfl
  have hplain : IsPlain "2024-02-29".toList :=
    ⟨by simpa using hsolid, by decide +kernel, by decide +kernel⟩
  obtain ⟨-, hread, hexact⟩ := ofText_by_form "2024-02-29"
  exact ⟨hstrict, rfl, hread ⟨2024, 2, 29⟩ hstrict rfl, hplain, hexact hplain⟩

/-- A blank in front makes up for a digit that the month leaves out. -/
theorem loose_text_is_read :
    ¬∀ text d, Date.ofText? text = some d ↔ IsStrictDate text.toList d.civil := by
  intro h
  have hread : Date.ofText? " 2024-1-15" = some ⟨19737, by decide, by decide⟩ := by
    decide +kernel
  obtain ⟨ys, ms, ds, htext, ⟨n, -, hys, hyears⟩, -⟩ := (h _ _).mp hread
  obtain ⟨y, ys, rfl⟩ := List.exists_cons_of_ne_nil hys.ne_nil
  -- the year would begin with the blank
  obtain rfl : ' ' = y := (List.cons.inj htext).1
  exact absurd (hys.digits ' ' List.mem_cons_self) (by decide)

end ChatArchive.Date
