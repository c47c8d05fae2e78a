/-!
# Dates

Days of the proleptic Gregorian calendar.  A date is held as the number of days since the first of
January 1970, so that its order and its neighbours are those of the integers; year, month and day
are worked out from that.  Years run from -262143 to 262142.
-/

namespace ChatArchive

namespace Calendar

/-! ## Years, months and days -/

/-- Does a year have a 29th of February? -/
def isLeapYear (year : Int) : Bool :=
  year % 4 == 0 && (year % 100 != 0 || year % 400 == 0)

/-- The number of days of a month; there are none in what is no month. -/
def daysInMonth (year : Int) (month : Nat) : Nat :=
  match month with
  | 1 | 3 | 5 | 7 | 8 | 10 | 12 => 31
  | 4 | 6 | 9 | 11 => 30
  | 2 => if isLeapYear year then 29 else 28
  | _ => 0

/-- Is there such a day? -/
def isDay (year : Int) (month day : Nat) : Bool := 1 ≤ day && day ≤ daysInMonth year month

/-- The number of a day, counted from the first of January 1970.  Years are taken to begin in
March, so that the leap day is the last of its year; 400 of them are 146097 days. -/
def dayNumber (year : Int) (month day : Nat) : Int :=
  let y := if month ≤ 2 then year - 1 else year
  let ofEra := y % 400
  let ofYear := (153 * ((month + 9) % 12) + 2) / 5 + day - 1
  y / 400 * 146097 + (ofEra * 365 + ofEra / 4 - ofEra / 100 + ofYear) - 719468

/-- A day as it is written. -/
structure Civil where
  year : Int
  month : Nat
  day : Nat
  deriving Repr, DecidableEq

/-- Year, month and day of a number. -/
def civilOf (number : Int) : Civil :=
  let n := number + 719468
  let era := n / 146097
  let ofEra := (n % 146097).toNat
  let years := (ofEra - ofEra / 1460 + ofEra / 36524 - ofEra / 146096) / 365
  let ofYear := ofEra - (365 * years + years / 4 - years / 100)
  let m := (5 * ofYear + 2) / 153
  let month := if m < 10 then m + 3 else m - 9
  ⟨era * 400 + years + (if month ≤ 2 then 1 else 0), month, ofYear - (153 * m + 2) / 5 + 1⟩

/-! ## Range -/

/-- The first day that can be held: the first of January of -262143. -/
def firstDay : Int := -96465292

/-- The last day that can be held: the 31st of December of 262142. -/
def lastDay : Int := 95026236

example : firstDay = dayNumber (-262143) 1 1 ∧ lastDay = dayNumber 262142 12 31 := by decide

/-! ## Writing -/

/-- A natural number with at least `width` digits. -/
def padded (width n : Nat) : List Char :=
  let ds := Nat.toDigits 10 n
  List.replicate (width - ds.length) '0' ++ ds

/-- A year: four digits, or a sign and at least four digits if four are not enough. -/
def yearText (year : Int) : List Char :=
  if 0 ≤ year ∧ year ≤ 9999 then padded 4 year.toNat
  else (if year < 0 then '-' else '+') :: padded 4 year.natAbs

end Calendar

open Calendar

/-- A day that can be held. -/
structure Date where
  number : Int
  firstDay_le : firstDay ≤ number
  le_lastDay : number ≤ lastDay

namespace Date

instance : Inhabited Date := ⟨⟨0, by decide, by decide⟩⟩

instance : DecidableEq Date := fun a b =>
  if h : a.number = b.number then .isTrue (by cases a; cases b; simp_all)
  else .isFalse fun e => h (by rw [e])

/-- The day of a number. -/
def ofNumber? (n : Int) : Option Date :=
  if h : firstDay ≤ n ∧ n ≤ lastDay then some ⟨n, h.1, h.2⟩ else none

/-- The date of a year, a month and a day; nothing if there is no such day. -/
def ofCivil? (year : Int) (month day : Nat) : Option Date :=
  if isDay year month day then ofNumber? (dayNumber year month day) else none

/-- The day as it is written. -/
def civil (d : Date) : Civil := civilOf d.number

/-- The day after; there is none after the last. -/
def next? (d : Date) : Option Date := ofNumber? (d.number + 1)

/-- The text of a date: year, month and day with hyphens between them. -/
def toText (d : Date) : String :=
  let c := d.civil
  String.ofList (yearText c.year ++ '-' :: padded 2 c.month ++ '-' :: padded 2 c.day)

end Date

end ChatArchive
