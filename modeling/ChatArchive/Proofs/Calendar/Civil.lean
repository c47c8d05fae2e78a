import ChatArchive.Calendar.Date
import Mathlib.Tactic.IntervalCases

/-!
# Year, month and day of a number

The number of a day is that of its year, month and day (`dayNumber_civilOf`), which are a day of
the calendar (`isDay_civilOf`).

Days are counted from March within eras of 400 years.  A day of an era lies in one of its four
centuries, there in one of 25 groups of four years, there in one of four years, and is one of that
year's days (`IsDayOfEra`).  The division that gives the year of the era takes a leap day off for
each group and century that is over, and one more late in a group (`leapDays_eq`).
-/

namespace ChatArchive.Calendar

/-! ## Years of an era -/

/-- The year of an era in which a day of the era lies. -/
def yearOfEra (d : Nat) : Nat := (d - d / 1460 + d / 36524 - d / 146096) / 365

/-- The days of an era before a year. -/
def daysBefore (y : Nat) : Nat := 365 * y + y / 4 - y / 100

/-- The days of its year before a day of an era. -/
def dayOfYear (d : Nat) : Nat := d - daysBefore (yearOfEra d)

/-- Day `d` of an era is day `r` of a year that comes after `c` centuries, `q` groups of four years
and `k` years. -/
structure IsDayOfEra (c q k r d : Nat) : Prop where
  eq : d = 36524 * c + 1461 * q + 365 * k + r
  century : c < 4
  group : q < 25
  year : k < 4
  day : r ≤ 365
  /-- Of a group only the last year is a leap year, and of a century the last year is none, unless
  the era ends with it. -/
  leap : r = 365 → k = 3 ∧ (q = 24 → c = 3)

/-- Every day of an era has its place. -/
theorem exists_isDayOfEra {d : Nat} (hd : d < 146097) : ∃ c q k r, IsDayOfEra c q k r d := by
  obtain ⟨c, d₁, rfl, hc, hd₁, hlast⟩ :
      ∃ c d₁, d = 36524 * c + d₁ ∧ c < 4 ∧ d₁ ≤ 36524 ∧ (d₁ = 36524 → c = 3) :=
    ⟨min (d / 36524) 3, d - 36524 * min (d / 36524) 3, by omega, by omega, by omega, by omega⟩
  obtain ⟨q, d₂, rfl, hq, hd₂⟩ : ∃ q d₂, d₁ = 1461 * q + d₂ ∧ q < 25 ∧ d₂ < 1461 :=
    ⟨d₁ / 1461, d₁ % 1461, by omega, by omega, by omega⟩
  obtain ⟨k, r, rfl, hk, hr, hleap⟩ :
      ∃ k r, d₂ = 365 * k + r ∧ k < 4 ∧ r ≤ 365 ∧ (r = 365 → k = 3) :=
    ⟨min (d₂ / 365) 3, d₂ - 365 * min (d₂ / 365) 3, by omega, by omega, by omega, by omega⟩
  exact ⟨c, q, k, r, by omega, hc, hq, hk, hr, fun h => ⟨hleap h, by omega⟩⟩

namespace IsDayOfEra

variable {c q k r d : Nat}

/-- The leap days that are taken off: one for each group that is over, and one more for a day so
late in its group that it is not the first of its year. -/
theorem leapDays_eq (h : IsDayOfEra c q k r d) :
    ∃ late, d / 1460 = 25 * c + q + late ∧ late ≤ r ∧ r ≤ 364 + late := by
  obtain ⟨heq, hc, hq, hk, hr, hleap⟩ := h
  by_cases hlate : 1460 ≤ 24 * c + q + 365 * k + r
  · exact ⟨1, by omega, by omega, by omega⟩
  · exact ⟨0, by omega, by omega, by omega⟩

/-- The centuries that are over.  The last day of an era would begin a fifth. -/
theorem centuries_eq (h : IsDayOfEra c q k r d) : d / 36524 = c + d / 146096 := by
  obtain ⟨heq, hc, hq, hk, hr, hleap⟩ := h
  obtain ⟨rest, hd, hrest, hlast⟩ :
      ∃ rest, d = 36524 * c + rest ∧ rest ≤ 36524 ∧ (rest = 36524 → c = 3) :=
    ⟨1461 * q + 365 * k + r, by omega, by omega, by omega⟩
  clear heq hleap
  omega

/-- The year of the era. -/
theorem yearOfEra_eq (h : IsDayOfEra c q k r d) : yearOfEra d = 100 * c + 4 * q + k := by
  obtain ⟨late, hgroups, hlow, hhigh⟩ := h.leapDays_eq
  have heq := h.eq
  have hdays : d - d / 1460 + d / 36524 - d / 146096 =
      365 * (100 * c + 4 * q + k) + (r - late) := by
    rw [hgroups, h.centuries_eq]
    omega
  rw [yearOfEra, hdays]
  omega

/-- The days before the year of the era. -/
theorem daysBefore_eq (h : IsDayOfEra c q k r d) :
    daysBefore (100 * c + 4 * q + k) = 36524 * c + 1461 * q + 365 * k := by
  obtain ⟨-, -, hq, hk, -, -⟩ := h
  have hgroups : (100 * c + 4 * q + k) / 4 = 25 * c + q := by omega
  have hcenturies : (100 * c + 4 * q + k) / 100 = c := by omega
  rw [daysBefore, hgroups, hcenturies]
  omega

/-- The day of the year. -/
theorem dayOfYear_eq (h : IsDayOfEra c q k r d) : dayOfYear d = r := by
  have heq := h.eq
  rw [dayOfYear, h.yearOfEra_eq, h.daysBefore_eq]
  omega

end IsDayOfEra

section

variable {d : Nat} (hd : d < 146097)
include hd

/-- An era has 400 years, counted from 0. -/
theorem yearOfEra_lt : yearOfEra d < 400 := by
  obtain ⟨c, q, k, r, h⟩ := exists_isDayOfEra hd
  obtain ⟨-, hc, hq, hk, -, -⟩ := id h
  rw [h.yearOfEra_eq]
  omega

/-- A day of an era is a day of its year. -/
theorem daysBefore_add_dayOfYear : daysBefore (yearOfEra d) + dayOfYear d = d := by
  obtain ⟨c, q, k, r, h⟩ := exists_isDayOfEra hd
  rw [h.dayOfYear_eq, h.yearOfEra_eq, h.daysBefore_eq, h.eq]

/-- A year has at most 366 days, counted from 0. -/
theorem dayOfYear_le : dayOfYear d ≤ 365 := by
  obtain ⟨c, q, k, r, h⟩ := exists_isDayOfEra hd
  rw [h.dayOfYear_eq]
  exact h.day

/-- Only a year of the era before a leap year has 366 days. -/
theorem isLeapYear_of_dayOfYear (hlast : dayOfYear d = 365) (era : Int) :
    isLeapYear (era * 400 + yearOfEra d + 1) = true := by
  obtain ⟨c, q, k, r, h⟩ := exists_isDayOfEra hd
  rw [h.dayOfYear_eq] at hlast
  obtain ⟨rfl, hcentury⟩ := h.leap hlast
  have hc := h.century
  have hq := h.group
  have hfour : (era * 400 + ((100 * c + 4 * q + 3 : Nat) : Int) + 1) % 4 = 0 := by omega
  have hnone : (era * 400 + ((100 * c + 4 * q + 3 : Nat) : Int) + 1) % 100 ≠ 0 ∨
      (era * 400 + ((100 * c + 4 * q + 3 : Nat) : Int) + 1) % 400 = 0 := by
    by_cases hgroup : q = 24
    · exact .inr (by have := hcentury hgroup; omega)
    · exact .inl (by omega)
  simp only [h.yearOfEra_eq, isLeapYear, Bool.and_eq_true, Bool.or_eq_true, beq_iff_eq, bne_iff_ne]
  exact ⟨hfour, hnone⟩

end

/-! ## Months -/

/-- The number of the month, counted from March, in which a day of a year lies. -/
def monthFromMarch (r : Nat) : Nat := (5 * r + 2) / 153

/-- The days of a year before a month, counted from March. -/
def daysBeforeMonth (m : Nat) : Nat := (153 * m + 2) / 5

/-- The number of a month that is counted from March. -/
def monthOf (m : Nat) : Nat := if m < 10 then m + 3 else m - 9

/-- Number `n` is that of day `r` of year `y` of an era, in month `m` of that year. -/
structure IsDayOf (n era : Int) (y m r : Nat) : Prop where
  number : n + 719468 = era * 146097 + (daysBefore y + r : Nat)
  year : y < 400
  leap : r = 365 → isLeapYear (era * 400 + y + 1) = true
  day : r ≤ 365
  month : m < 12
  month_le : daysBeforeMonth m ≤ r
  lt_month : r < daysBeforeMonth (m + 1)
  civil : civilOf n = ⟨era * 400 + y + (if monthOf m ≤ 2 then 1 else 0), monthOf m,
    r - daysBeforeMonth m + 1⟩

/-- Every number is that of a day. -/
theorem exists_isDayOf (n : Int) : ∃ era y m r, IsDayOf n era y m r := by
  obtain ⟨era, d, hera, hofEra, hd, hn⟩ : ∃ (era : Int) (d : Nat), era = (n + 719468) / 146097 ∧
      d = ((n + 719468) % 146097).toNat ∧ d < 146097 ∧ n + 719468 = era * 146097 + d :=
    ⟨(n + 719468) / 146097, ((n + 719468) % 146097).toNat, rfl, rfl, by omega, by omega⟩
  have hday := dayOfYear_le hd
  refine ⟨era, yearOfEra d, monthFromMarch (dayOfYear d), dayOfYear d, ?_, yearOfEra_lt hd,
    fun hlast => isLeapYear_of_dayOfYear hd hlast era, hday, ?_, ?_, ?_, ?_⟩
  · rw [daysBefore_add_dayOfYear hd, hn]
  · rw [monthFromMarch]
    omega
  · rw [daysBeforeMonth, monthFromMarch]
    omega
  · rw [daysBeforeMonth, monthFromMarch]
    omega
  · rw [hera, hofEra]
    rfl

/-- The number of a day of a month that is counted from March. -/
theorem dayNumber_monthOf (era : Int) {y m : Nat} (hy : y < 400) (hm : m < 12) {day : Nat}
    (hday : 1 ≤ day) :
    dayNumber (era * 400 + y + (if monthOf m ≤ 2 then 1 else 0)) (monthOf m) day + 719468 =
      era * 146097 + (daysBefore y + (daysBeforeMonth m + (day - 1)) : Nat) := by
  have hmonth : (monthOf m + 9) % 12 = m := by
    unfold monthOf
    split <;> omega
  have hyear : (if monthOf m ≤ 2 then era * 400 + y + (if monthOf m ≤ 2 then 1 else 0) - 1
      else era * 400 + y + (if monthOf m ≤ 2 then 1 else 0)) = era * 400 + y := by
    split <;> omega
  have hera : (era * 400 + y) / 400 = era := by omega
  have hofEra : (era * 400 + y) % 400 = y := by omega
  simp only [dayNumber, hmonth, hyear, hera, hofEra, daysBefore, daysBeforeMonth]
  omega

/-- The number of a day is that of its year, month and day. -/
theorem dayNumber_civilOf (n : Int) :
    dayNumber (civilOf n).year (civilOf n).month (civilOf n).day = n := by
  obtain ⟨era, y, m, r, h⟩ := exists_isDayOf n
  have hnumber := dayNumber_monthOf era h.year h.month (Nat.le_add_left 1 (r - daysBeforeMonth m))
  have hplace := h.number
  have hlow := h.month_le
  rw [h.civil]
  dsimp only
  omega

/-- A month is as long as the time between it and the next; February is the last. -/
theorem daysInMonth_monthOf (year : Int) {m : Nat} (hm : m < 11) :
    daysInMonth year (monthOf m) = daysBeforeMonth (m + 1) - daysBeforeMonth m := by
  interval_cases m <;> rfl

/-- Months and days count from 1, and there is no longer month than of 31 days. -/
theorem isDay_bounds {year : Int} {month day : Nat} (h : isDay year month day = true) :
    (1 ≤ month ∧ month ≤ 12) ∧ 1 ≤ day ∧ day ≤ 31 := by
  rw [isDay, Bool.and_eq_true, decide_eq_true_iff, decide_eq_true_iff] at h
  obtain ⟨hlow, hhigh⟩ := h
  unfold daysInMonth at hhigh
  repeat' split at hhigh
  all_goals omega

/-- Year, month and day of a number are a day of the calendar. -/
theorem isDay_civilOf (n : Int) :
    isDay (civilOf n).year (civilOf n).month (civilOf n).day = true := by
  obtain ⟨era, y, m, r, h⟩ := exists_isDayOf n
  have hlow := h.month_le
  have hhigh := h.lt_month
  simp only [h.civil, isDay, Bool.and_eq_true, decide_eq_true_iff]
  refine ⟨by omega, ?_⟩
  by_cases hlast : m < 11
  · rw [daysInMonth_monthOf _ hlast]
    omega
  · obtain rfl : m = 11 := by have := h.month; omega
    have hday := h.day
    have hbefore : daysBeforeMonth 11 = 337 := rfl
    have hfebruary : monthOf 11 = 2 := rfl
    simp only [hfebruary, daysInMonth, hbefore, Nat.le_refl, if_true]
    by_cases hlong : isLeapYear (era * 400 + y + 1) = true
    · rw [if_pos hlong]
      omega
    · rw [if_neg hlong]
      -- the last day belongs to the year before a leap year
      have hr : r ≠ 365 := fun hr => hlong (h.leap hr)
      omega

/-- A year is written with at most six digits. -/
theorem natAbs_year_lt (d : Date) : d.civil.year.natAbs < 1000000 := by
  obtain ⟨era, y, m, r, h⟩ := exists_isDayOf d.number
  have hy := h.year
  have hnumber := h.number
  have hfirst : -96465292 ≤ d.number := d.firstDay_le
  have hlast : d.number ≤ 95026236 := d.le_lastDay
  have hdays : daysBefore y ≤ 146097 := by
    rw [daysBefore]
    omega
  have hr := h.day
  simp only [Date.civil, h.civil]
  split <;> omega

end ChatArchive.Calendar

namespace ChatArchive.Date

open Calendar

/-- A date is that of its year, month and day. -/
theorem ofCivil?_civil (d : Date) : ofCivil? d.civil.year d.civil.month d.civil.day = some d := by
  rw [ofCivil?, civil, if_pos (isDay_civilOf _), dayNumber_civilOf, ofNumber?,
    dif_pos ⟨d.firstDay_le, d.le_lastDay⟩]

end ChatArchive.Date
