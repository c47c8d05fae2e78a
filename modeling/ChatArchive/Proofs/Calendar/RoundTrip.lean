import ChatArchive.Calendar.Printer
import ChatArchive.Calendar.Reader
import ChatArchive.Proofs.Calendar.Civil
import ChatArchive.Proofs.Text.Basic
import ChatArchive.Proofs.Text.Digits

/-!
# Reading the exact text of an instant

The exact text of every instant denotes that instant (`readTimestamp_toText`): also of one in a
leap second, and of one in a year with more than four digits or a sign.
-/

namespace ChatArchive.Calendar

open Text
open ChatArchive.Unicode (CharSet)

/-! ## Numbers -/

/-- A digit is no blank. -/
theorem isBlank_of_isDigit {c : Char} (h : c.isDigit = true) : isBlank c = false := by
  obtain ⟨hlow, hhigh⟩ := (Bool.and_eq_true _ _).mp h
  have hlow : 0x30 ≤ c.toNat := of_decide_eq_true hlow
  have hhigh : c.toNat ≤ 0x39 := of_decide_eq_true hhigh
  -- digits lie between the second and the third range of white space
  have hbelow : ¬c.toNat ≤ 0xD ∧ ¬c.toNat ≤ 0x20 := by omega
  have habove : c.toNat < 0x85 := by omega
  simp [isBlank, CharSet.contains, CharSet.containsCode, CharSet.whiteSpace, CharSet.containsIn,
    hbelow, habove]

/-- A numeral is read, if it has not too many digits and denotes no too great number. -/
theorem readDigits_numeral {width : Option Nat} {ds : List Char} {n : Nat} {rest : List Char}
    (hds : IsNumeral ds n) (hn : n ≤ greatestNumber) (hwidth : ∀ most ∈ width, ds.length ≤ most)
    (hrest : NoDigitAhead rest) : readDigits width (ds ++ rest) = .ok (n, rest) := by
  obtain ⟨hdigits, hne, hvalue⟩ := hds
  have hrun := takeWhile_digits hdigits hrest
  have hvalue : ds.foldl (fun n d => n * 10 + digitOf d) 0 = n := hvalue
  have hleft : (ds ++ rest).drop ds.length = rest := List.drop_left
  obtain ⟨d, ds, rfl⟩ := List.exists_cons_of_ne_nil hne
  have hd : d.isDigit = true := hdigits d List.mem_cons_self
  rw [List.cons_append] at hrun hleft ⊢
  cases width with
  | none =>
    simp only [readDigits, hd, hrun, hvalue, hleft, Bool.not_true, Bool.false_eq_true, if_false,
      if_neg (Nat.not_lt_of_le hn)]
  | some most =>
    have htake : (d :: ds).take most = d :: ds := List.take_of_length_le (hwidth most rfl)
    simp only [readDigits, hd, hrun, htake, hvalue, hleft, Bool.not_true, Bool.false_eq_true,
      if_false, if_neg (Nat.not_lt_of_le hn)]

/-- Nothing is trimmed in front of digits. -/
theorem trimStart_numeral {ds : List Char} {n : Nat} (hds : IsNumeral ds n) (rest : List Char) :
    trimStart (ds ++ rest) = ds ++ rest := by
  obtain ⟨d, ds, rfl⟩ := List.exists_cons_of_ne_nil hds.ne_nil
  exact trimStart_cons_of_not_blank (isBlank_of_isDigit (hds.digits d List.mem_cons_self)) _

/-- A numeral of two digits is read if it is within bounds. -/
theorem readField_numeral {low high n : Nat} {ds rest : List Char} (hds : IsNumeral ds n)
    (hlength : ds.length ≤ 2) (hlow : low ≤ n) (hhigh : n ≤ high) (hrest : NoDigitAhead rest) :
    readField low high (ds ++ rest) = .ok (n, rest) := by
  have hn : n < 10 ^ 2 := hds.lt_pow.trans_le (Nat.pow_le_pow_right (by decide) hlength)
  have hread : readDigits (some 2) (ds ++ rest) = .ok (n, rest) :=
    readDigits_numeral hds (Nat.le_trans (Nat.le_of_lt hn) (by decide))
      (fun _ hmost => Option.some.inj hmost ▸ hlength) hrest
  simp only [readField, trimStart_numeral hds, hread, bind, Except.bind,
    if_pos (And.intro hlow hhigh)]

/-- A number of two digits is read as it was written, if no digit comes behind it. -/
theorem readField_padded {low high n : Nat} {rest : List Char} (hlow : low ≤ n) (hhigh : n ≤ high)
    (hn : n < 100) (hrest : NoDigitAhead rest) :
    readField low high (padded 2 n ++ rest) = .ok (n, rest) :=
  readField_numeral (isNumeral_padded 2 n) (Nat.le_of_eq (length_padded (by decide) hn)) hlow hhigh
    hrest

/-- At the end of a text no digit is ahead. -/
theorem noDigitAhead_nil : NoDigitAhead [] := nofun

/-- No digit is ahead of a character that is none. -/
theorem noDigitAhead_cons {c : Char} (h : c.isDigit = false) (cs : List Char) :
    NoDigitAhead (c :: cs) := fun _ hc => Option.some.inj hc ▸ h

/-- Years of up to six digits are integers of 32 bits. -/
theorem holdsInt_year {year : Int} (hyear : year.natAbs < 1000000) :
    Word.holdsInt 32 year = true := by
  have hleast : Word.minInt 32 = -2147483648 := rfl
  have hgreatest : Word.maxInt 32 = 2147483647 := rfl
  rw [Word.holdsInt, Bool.and_eq_true, decide_eq_true_iff, decide_eq_true_iff]
  omega

/-- A year of at most four digits is read without a sign. -/
theorem readYear_numeral {ds rest : List Char} {n : Nat} (hds : IsNumeral ds n)
    (hlength : ds.length ≤ 4) (hrest : NoDigitAhead rest) :
    readYear (ds ++ rest) = .ok ((n : Int), rest) := by
  have hn : n < 10 ^ 4 := hds.lt_pow.trans_le (Nat.pow_le_pow_right (by decide) hlength)
  have hread : readDigits (some 4) (ds ++ rest) = .ok (n, rest) :=
    readDigits_numeral hds (Nat.le_trans (Nat.le_of_lt hn) (by decide))
      (fun _ hmost => Option.some.inj hmost ▸ hlength) hrest
  have hholds : Word.holdsInt 32 (n : Int) = true := holdsInt_year (by omega)
  rw [readYear, trimStart_numeral hds]
  -- the first digit is no sign
  obtain ⟨d, ds, rfl⟩ := List.exists_cons_of_ne_nil hds.ne_nil
  have hd := hds.digits d List.mem_cons_self
  have hminus : d ≠ '-' := by rintro rfl; exact absurd hd (by decide)
  have hplus : d ≠ '+' := by rintro rfl; exact absurd hd (by decide)
  rw [List.cons_append] at hread ⊢
  split
  · rename_i heq
    exact absurd (List.cons.inj heq).1 hminus
  · rename_i heq
    exact absurd (List.cons.inj heq).1 hplus
  · simp only [hread, Except.map, bind, Except.bind, if_pos hholds]

section

variable {ds rest : List Char} {n : Nat} (hds : IsNumeral ds n) (hn : n < 1000000)
  (hrest : NoDigitAhead rest)
include hds hn hrest

/-- A year before the year 0 is read with its sign. -/
theorem readYear_minus : readYear ('-' :: (ds ++ rest)) = .ok (-(n : Int), rest) := by
  have hread : readDigits none (ds ++ rest) = .ok (n, rest) :=
    readDigits_numeral hds (Nat.le_trans (Nat.le_of_lt hn) (by decide)) nofun hrest
  have hholds : Word.holdsInt 32 (-(n : Int)) = true := holdsInt_year (by omega)
  have hsign : ∀ cs, trimStart ('-' :: cs) = '-' :: cs := fun _ => rfl
  simp only [readYear, hsign, hread, Except.map, bind, Except.bind, if_pos hholds]

/-- A year with the other sign has any number of digits. -/
theorem readYear_plus : readYear ('+' :: (ds ++ rest)) = .ok ((n : Int), rest) := by
  have hread : readDigits none (ds ++ rest) = .ok (n, rest) :=
    readDigits_numeral hds (Nat.le_trans (Nat.le_of_lt hn) (by decide)) nofun hrest
  have hholds : Word.holdsInt 32 (n : Int) = true := holdsInt_year (by omega)
  have hsign : ∀ cs, trimStart ('+' :: cs) = '+' :: cs := fun _ => rfl
  simp only [readYear, hsign, hread, Except.map, bind, Except.bind, if_pos hholds]

end

/-- A year is read, with or without a sign. -/
theorem readYear_yearText {year : Int} (hyear : year.natAbs < 1000000) {rest : List Char}
    (hrest : NoDigitAhead rest) : readYear (yearText year ++ rest) = .ok (year, rest) := by
  have hnumeral := isNumeral_padded 4 year.natAbs
  unfold yearText
  split_ifs with hplain hneg
  · have hvalue : (year.toNat : Int) = year := by omega
    rw [readYear_numeral (isNumeral_padded 4 year.toNat)
      (Nat.le_of_eq (length_padded (by decide) (by omega))) hrest, hvalue]
  · have hvalue : -(year.natAbs : Int) = year := by omega
    rw [List.cons_append, readYear_minus hnumeral hyear hrest, hvalue]
  · have hvalue : (year.natAbs : Int) = year := by omega
    rw [List.cons_append, readYear_plus hnumeral hyear hrest, hvalue]

/-! ## Dates -/

/-- A mark after a number is found. -/
theorem expectMark_self (mark : Char) (rest : List Char) :
    expectMark mark (mark :: rest) = .ok rest := if_pos rfl

/-- The text of a date is read as its year, month and day. -/
theorem readCivil_toText (d : Date) {rest : List Char} (hrest : NoDigitAhead rest) :
    readCivil trimStart (d.toText.toList ++ rest) = .ok (d.civil, rest) := by
  have hbounds : isDay d.civil.year d.civil.month d.civil.day = true := isDay_civilOf d.number
  obtain ⟨⟨hmonth, hmonth'⟩, hday, hday'⟩ := isDay_bounds hbounds
  have hdash : ∀ cs, NoDigitAhead ('-' :: cs) := noDigitAhead_cons rfl
  have htrim : ∀ cs, trimStart ('-' :: cs) = '-' :: cs := fun _ => rfl
  have hreadYear := fun cs => readYear_yearText (natAbs_year_lt d) (hdash cs)
  have hreadMonth := fun cs => readField_padded hmonth hmonth' (by omega) (hdash cs)
  have hreadDay := readField_padded hday hday' (by omega) hrest
  have htext : d.toText.toList ++ rest = yearText d.civil.year ++ '-' ::
      (padded 2 d.civil.month ++ '-' :: (padded 2 d.civil.day ++ rest)) := by
    simp only [Date.toText, String.toList_ofList, List.append_assoc, List.cons_append]
  simp only [htext, readCivil, hreadYear, htrim, expectMark_self, hreadMonth, hreadDay, bind,
    Except.bind]

/-! ## Times -/

/-- Up to nine digits behind a point are read as a fraction of a second. -/
theorem readFraction_padded {w n : Nat} (hw : 0 < w) (hw' : w ≤ 9) (hn : n < 10 ^ w) :
    readFraction ('.' :: padded w n ++ ['Z']) = .ok (n * Nat.pow 10 (9 - w), ['Z']) := by
  have hZ : NoDigitAhead ['Z'] := noDigitAhead_cons rfl []
  have hlength := length_padded hw hn
  have hdigits : readDigits (some 9) (padded w n ++ ['Z']) = .ok (n, ['Z']) := by
    refine readDigits_numeral (isNumeral_padded w n) ?_ (fun _ hmost => ?_) hZ
    · have hpower : 10 ^ w ≤ 10 ^ 9 := Nat.pow_le_pow_right (by decide) hw'
      have hgreatest : 10 ^ 9 ≤ greatestNumber := by decide
      omega
    · rw [← Option.some.inj hmost, hlength]
      exact hw'
  have hwidth : (padded w n ++ ['Z']).length - ['Z'].length = w := by
    rw [List.length_append, hlength, Nat.add_sub_cancel]
  simp only [List.cons_append, readFraction, hdigits, hwidth, bind, Except.bind]
  rfl

/-- A fraction of a second is read. -/
theorem readFraction_fractionText (nano : Nat) :
    readFraction (fractionText nano ++ ['Z']) = .ok (nano % nanosPerSecond, ['Z']) := by
  unfold fractionText
  have hlt : nano % nanosPerSecond < 1000000000 := Nat.mod_lt _ (by decide)
  generalize nano % nanosPerSecond = n at hlt ⊢
  simp only
  split_ifs with hzero hmillis hmicros
  · rw [hzero]
    rfl
  · have hvalue : n / 1000000 * Nat.pow 10 (9 - 3) = n := by
      show n / 1000000 * 1000000 = n
      omega
    rw [readFraction_padded (by decide) (by decide) (by omega), hvalue]
  · have hvalue : n / 1000 * Nat.pow 10 (9 - 6) = n := by
      show n / 1000 * 1000 = n
      omega
    rw [readFraction_padded (by decide) (by decide) (by omega), hvalue]
  · have hvalue : n * Nat.pow 10 (9 - 9) = n := Nat.mul_one n
    rw [readFraction_padded (by decide) (by decide) hlt, hvalue]

/-- The second that is written: a leap second is the second 60. -/
def writtenSecond (t : Timestamp) : Nat :=
  if nanosPerSecond ≤ t.nano then t.secondOfDay.toNat % 60 + 1 else t.secondOfDay.toNat % 60

/-- The time of day as it is written. -/
def timeOfDay (t : Timestamp) : TimeOfDay where
  hour := t.secondOfDay.toNat / 3600
  minute := t.secondOfDay.toNat / 60 % 60
  second := writtenSecond t
  nano := t.nano % nanosPerSecond

/-- The text of a time is read as the time. -/
theorem readTimeOfDay_clockText (t : Timestamp) :
    readTimeOfDay (clockText t ++ fractionText t.nano ++ ['Z']) = .ok (timeOfDay t, ['Z']) := by
  have hsecond : writtenSecond t ≤ 60 := by
    unfold writtenSecond
    split <;> omega
  have hday : t.secondOfDay.toNat < 86400 := by
    rw [Timestamp.secondOfDay, secondsPerDay]
    omega
  have hcolon : ∀ cs, NoDigitAhead (':' :: cs) := noDigitAhead_cons rfl
  have htrim : ∀ cs, trimStart (':' :: cs) = ':' :: cs := fun _ => rfl
  have hfraction : NoDigitAhead (fractionText t.nano ++ ['Z']) := by
    unfold fractionText
    simp only
    split_ifs <;> exact noDigitAhead_cons rfl _
  have hhour : t.secondOfDay.toNat / 3600 ≤ 23 := by omega
  have hminute : t.secondOfDay.toNat / 60 % 60 ≤ 59 := by omega
  have hreadHour := fun cs => readField_padded (Nat.zero_le _) hhour (by omega) (hcolon cs)
  have hreadMinute := fun cs => readField_padded (Nat.zero_le _) hminute (by omega) (hcolon cs)
  have hreadSecond := readField_padded (Nat.zero_le _) hsecond (by omega) hfraction
  have htext : clockText t ++ fractionText t.nano ++ ['Z'] =
      padded 2 (t.secondOfDay.toNat / 3600) ++ ':' ::
        (padded 2 (t.secondOfDay.toNat / 60 % 60) ++ ':' ::
          (padded 2 (writtenSecond t) ++ (fractionText t.nano ++ ['Z']))) := by
    simp only [clockText, List.append_assoc, List.cons_append]
    rfl
  simp only [htext, readTimeOfDay, hreadHour, htrim, expectMark_self, hreadMinute, hreadSecond,
    readFraction_fractionText, bind, Except.bind]
  rfl

/-! ## Instants -/

/-- The second 60 and the fraction of a leap second stand for its nanoseconds. -/
theorem timeOfDay_cases (t : Timestamp) :
    min (timeOfDay t).second 59 = t.secondOfDay.toNat % 60 ∧
      (if (timeOfDay t).second = 60 then nanosPerSecond + (timeOfDay t).nano
        else (timeOfDay t).nano) = t.nano := by
  have hsize : nanosPerSecond = 1000000000 := rfl
  have hnano := t.nano_lt
  simp only [timeOfDay, writtenSecond, hsize] at hnano ⊢
  by_cases hleap : 1000000000 ≤ t.nano
  · have hlast : t.secondOfDay.toNat % 60 = 59 := by
      have := t.leap_at_end (hsize ▸ hleap)
      rw [Timestamp.secondOfDay, secondsPerDay]
      omega
    rw [if_pos hleap, hlast]
    exact ⟨rfl, by rw [if_pos rfl]; omega⟩
  · have hcommon : t.secondOfDay.toNat % 60 ≠ 60 := by omega
    rw [if_neg hleap, if_neg hcommon]
    omega

/-- A day and the time of that day are the instant again. -/
theorem instantOf_timeOfDay (t : Timestamp) : instantOf t.date.civil (timeOfDay t) 0 = .ok t := by
  obtain ⟨hsecond, hnano⟩ := timeOfDay_cases t
  have hinstant : t.date.number * secondsPerDay +
      (((timeOfDay t).hour : Int) * 3600 + ((timeOfDay t).minute : Int) * 60 +
        ((min (timeOfDay t).second 59 : Nat) : Int)) - 0 = t.second := by
    have hnumber : t.date.number = t.second / secondsPerDay := rfl
    rw [hsecond, hnumber]
    simp only [timeOfDay, Timestamp.secondOfDay, secondsPerDay]
    omega
  have hparts : Timestamp.ofParts? t.second t.nano = some t :=
    dif_pos ⟨t.firstDay_le, t.lt_end, t.nano_lt, t.leap_at_end⟩
  rw [instantOf, Date.ofCivil?_civil]
  simp only [hnano, hinstant, hparts]
  rfl

/-- The exact text of an instant denotes it. -/
theorem readTimestamp_toText (t : Timestamp) : readTimestamp t.toText = .ok t := by
  have hT : ∀ cs, NoDigitAhead ('T' :: cs) := noDigitAhead_cons rfl
  have htext : t.toText.toList =
      t.date.toText.toList ++ 'T' :: (clockText t ++ fractionText t.nano ++ ['Z']) := by
    simp only [Timestamp.toText, String.toList_append, String.toList_ofList, List.cons_append]
  have hseparator : ∀ cs, readSeparator ('T' :: cs) = .ok cs := fun _ => rfl
  have hoffset : readOffset (trimStart ['Z']) = .ok (0, []) := rfl
  simp only [readTimestamp, htext, readCivil_toText _ (hT _), hseparator,
    readTimeOfDay_clockText, hoffset, bind, Except.bind]
  exact instantOf_timeOfDay t

end ChatArchive.Calendar
