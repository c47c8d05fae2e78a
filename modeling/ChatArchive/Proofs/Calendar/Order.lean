import ChatArchive.Calendar.Timestamp
import ChatArchive.Proofs.Calendar.Civil
import Mathlib.Order.Monotone.Basic

/-!
# The order of days and instants

The order of the numbers of days is that of the calendar: by year, then by month, then by day
(`Date.notAfter_civil_iff`).

Months are counted across the years, so that one number stands for a year and a month
(`Civil.months`).  Days of a later month have greater numbers (`IsDayOf.lt_of_months_lt`): a year
that begins in March ends with its leap day, so that its days come before those of the next
(`IsYearDay.lt_of_year_lt`).  So no two days of the calendar have one number, and every one of them
is that of its number (`civilOf_dayNumber`).

Instants stand in the order of their seconds, then of their nanoseconds (`Timestamp.notAfter_iff`),
which is total.
-/

namespace ChatArchive

namespace Calendar

/-- Not after, by the year, then the month, then the day. -/
def Civil.NotAfter (a b : Civil) : Prop :=
  a.year < b.year ∨
    a.year = b.year ∧ (a.month < b.month ∨ a.month = b.month ∧ a.day ≤ b.day)

/-- The number of a month, across the years. -/
def Civil.months (c : Civil) : Int := 12 * c.year + c.month

/-! ## Years -/

/-- Every year has 365 days at least. -/
theorem daysBefore_succ (y : Nat) : daysBefore y + 365 ≤ daysBefore (y + 1) := by
  unfold daysBefore
  by_cases hcentury : (y + 1) % 100 = 0
  · omega
  · omega

/-- Later months have more days before them. -/
theorem daysBefore_mono : Monotone daysBefore :=
  monotone_nat_of_le_succ fun y => (Nat.le_add_right _ 365).trans (daysBefore_succ y)

/-- A year of an era that ends with a leap day has 366. -/
theorem daysBefore_succ_of_leap {era : Int} {y : Nat} (hy : y + 1 < 400)
    (hleap : isLeapYear (era * 400 + y + 1) = true) :
    daysBefore y + 366 ≤ daysBefore (y + 1) := by
  simp only [isLeapYear, Bool.and_eq_true, Bool.or_eq_true, beq_iff_eq, bne_iff_ne] at hleap
  obtain ⟨hfour, hcentury⟩ := hleap
  have hfour' : (y + 1) % 4 = 0 := by omega
  have hcentury' : (y + 1) % 100 ≠ 0 := by omega
  unfold daysBefore
  omega

/-- Number `n` is that of day `r` of year `y` of an era. -/
structure IsYearDay (n era : Int) (y r : Nat) : Prop where
  number : n + 719468 = era * 146097 + (daysBefore y + r : Nat)
  year : y < 400
  day : r ≤ 365
  leap : r = 365 → isLeapYear (era * 400 + y + 1) = true

namespace IsYearDay

variable {n n' era era' : Int} {y y' r r' : Nat}

/-- Of a year that begins in March all days come before those of the years after it. -/
theorem lt_of_year_lt (h : IsYearDay n era y r) (h' : IsYearDay n' era' y' r')
    (hyear : era * 400 + y < era' * 400 + y') : n < n' := by
  obtain ⟨hn, hy, hr, hleap⟩ := h
  obtain ⟨hn', hy', -, -⟩ := h'
  rcases lt_trichotomy era era' with hera | rfl | hera
  · -- an era has 146097 days
    have hlast : daysBefore y ≤ 145731 := by
      unfold daysBefore
      omega
    omega
  · have hlater : y + 1 ≤ y' := by omega
    have hdays := daysBefore_mono hlater
    by_cases hlast : r = 365
    · have := daysBefore_succ_of_leap (by omega) (hleap hlast)
      omega
    · have := daysBefore_succ y
      omega
  · omega

/-- A number is that of one day only. -/
theorem unique (h : IsYearDay n era y r) (h' : IsYearDay n era' y' r') :
    era = era' ∧ y = y' ∧ r = r' := by
  have hyear : era * 400 + y = era' * 400 + y' := by
    rcases lt_trichotomy (era * 400 + y) (era' * 400 + y') with hlt | heq | hgt
    · exact absurd (h.lt_of_year_lt h' hlt) (lt_irrefl n)
    · exact heq
    · exact absurd (h'.lt_of_year_lt h hgt) (lt_irrefl n)
  have hy := h.year
  have hy' := h'.year
  obtain rfl : era = era' := by omega
  obtain rfl : y = y' := by omega
  have hn := h.number
  have hn' := h'.number
  omega

end IsYearDay

namespace IsDayOf

variable {n n' era era' : Int} {y y' m m' r r' : Nat}

/-- The day of a month is a day of its year. -/
theorem isYearDay (h : IsDayOf n era y m r) : IsYearDay n era y r :=
  ⟨h.number, h.year, h.day, h.leap⟩

/-! ## Months -/

/-- Years that begin in March have their months in order. -/
theorem months_civil (h : IsDayOf n era y m r) :
    (civilOf n).months = 12 * (era * 400 + y) + m + 3 := by
  have hm := h.month
  rw [h.civil]
  unfold Civil.months monthOf
  split_ifs <;> dsimp only <;> omega

/-- The month of a day is one of twelve. -/
theorem month_bounds (h : IsDayOf n era y m r) :
    1 ≤ (civilOf n).month ∧ (civilOf n).month ≤ 12 := by
  have hm := h.month
  rw [h.civil]
  unfold monthOf
  dsimp only
  split_ifs <;> omega

/-- Days of a later month have greater numbers. -/
theorem lt_of_months_lt (h : IsDayOf n era y m r) (h' : IsDayOf n' era' y' m' r')
    (hmonths : (civilOf n).months < (civilOf n').months) : n < n' := by
  have hm := h.month
  have hm' := h'.month
  rw [h.months_civil, h'.months_civil] at hmonths
  by_cases hyear : era * 400 + y < era' * 400 + y'
  · exact h.isYearDay.lt_of_year_lt h'.isYearDay hyear
  · have hy := h.year
    have hy' := h'.year
    obtain rfl : era = era' := by omega
    obtain rfl : y = y' := by omega
    have hn := h.number
    have hn' := h'.number
    have hr := h.lt_month
    have hr' := h'.month_le
    unfold daysBeforeMonth at hr hr'
    omega

/-- Within a month the days count. -/
theorem le_iff_of_months_eq (h : IsDayOf n era y m r) (h' : IsDayOf n' era' y' m' r')
    (hmonths : (civilOf n).months = (civilOf n').months) :
    n ≤ n' ↔ (civilOf n).day ≤ (civilOf n').day := by
  have hm := h.month
  have hm' := h'.month
  rw [h.months_civil, h'.months_civil] at hmonths
  have hy := h.year
  have hy' := h'.year
  obtain rfl : era = era' := by omega
  obtain rfl : y = y' := by omega
  obtain rfl : m = m' := by omega
  have hn := h.number
  have hn' := h'.number
  have hr := h.month_le
  have hr' := h'.month_le
  rw [h.civil, h'.civil]
  dsimp only
  omega

end IsDayOf

/-! ## Days -/

/-- The order of the numbers of days is that of years, months and days. -/
theorem notAfter_civilOf_iff (n n' : Int) : (civilOf n).NotAfter (civilOf n') ↔ n ≤ n' := by
  obtain ⟨era, y, m, r, h⟩ := exists_isDayOf n
  obtain ⟨era', y', m', r', h'⟩ := exists_isDayOf n'
  have hbounds := h.month_bounds
  have hbounds' := h'.month_bounds
  unfold Civil.NotAfter
  rcases lt_trichotomy (civilOf n).months (civilOf n').months with hlt | heq | hgt
  · have hnumber := h.lt_of_months_lt h' hlt
    unfold Civil.months at hlt
    omega
  · rw [h.le_iff_of_months_eq h' heq]
    unfold Civil.months at heq
    omega
  · have hnumber := h'.lt_of_months_lt h hgt
    unfold Civil.months at hgt
    omega

/-! ## Days of the calendar -/

/-- A day of a month lies before the next month, and only the leap day is the last of 366. -/
theorem day_bounds_monthOf (era : Int) (y : Nat) {m day : Nat} (hm : m < 12)
    (hday : day ≤ daysInMonth (era * 400 + y + (if monthOf m ≤ 2 then 1 else 0)) (monthOf m)) :
    daysBeforeMonth m + (day - 1) < daysBeforeMonth (m + 1) ∧ daysBeforeMonth m + (day - 1) ≤ 365 ∧
      (daysBeforeMonth m + (day - 1) = 365 → isLeapYear (era * 400 + y + 1) = true) := by
  by_cases hlast : m < 11
  · rw [daysInMonth_monthOf _ hlast] at hday
    unfold daysBeforeMonth at hday ⊢
    omega
  · obtain rfl : m = 11 := by omega
    have hbefore : daysBeforeMonth 11 = 337 := rfl
    have hafter : daysBeforeMonth (11 + 1) = 367 := rfl
    have hfebruary : monthOf 11 = 2 := rfl
    simp only [hfebruary, daysInMonth, Nat.le_refl, if_true] at hday
    rw [hbefore, hafter]
    by_cases hleap : isLeapYear (era * 400 + y + 1) = true
    · rw [if_pos hleap] at hday
      exact ⟨by omega, by omega, fun _ => hleap⟩
    · rw [if_neg hleap] at hday
      omega

/-- A day of the calendar has its place in a year that begins in March. -/
theorem exists_isYearDay {c : Civil} (h : isDay c.year c.month c.day = true) :
    ∃ era y m r, IsYearDay (dayNumber c.year c.month c.day) era y r ∧
      (m < 12 ∧ daysBeforeMonth m ≤ r ∧ r < daysBeforeMonth (m + 1)) ∧
      c = ⟨era * 400 + y + (if monthOf m ≤ 2 then 1 else 0), monthOf m,
        r - daysBeforeMonth m + 1⟩ := by
  obtain ⟨year, month, day⟩ := c
  obtain ⟨⟨hmonth, hmonth'⟩, hday, -⟩ := isDay_bounds h
  have hlast : day ≤ daysInMonth year month := by
    rw [isDay, Bool.and_eq_true, decide_eq_true_iff, decide_eq_true_iff] at h
    exact h.2
  dsimp only at hmonth hmonth' hday hlast ⊢
  obtain ⟨m, hm, rfl⟩ : ∃ m, m < 12 ∧ month = monthOf m :=
    ⟨(month + 9) % 12, Nat.mod_lt _ (by decide), by unfold monthOf; split <;> omega⟩
  obtain ⟨Y, rfl⟩ : ∃ Y : Int, year = Y + (if monthOf m ≤ 2 then 1 else 0) :=
    ⟨year - (if monthOf m ≤ 2 then 1 else 0), by omega⟩
  obtain ⟨era, y, hy, rfl⟩ : ∃ (era : Int) (y : Nat), y < 400 ∧ Y = era * 400 + y :=
    ⟨Y / 400, (Y % 400).toNat, by omega, by omega⟩
  have hnumber := dayNumber_monthOf era hy hm hday
  obtain ⟨hhigh, hyearEnd, hleap⟩ := day_bounds_monthOf era y hm hlast
  exact ⟨era, y, m, daysBeforeMonth m + (day - 1), ⟨hnumber, hy, hyearEnd, hleap⟩,
    ⟨hm, Nat.le_add_right _ _, hhigh⟩, by simp; omega⟩

/-- Every day of the calendar is that of its number. -/
theorem civilOf_dayNumber {c : Civil} (h : isDay c.year c.month c.day = true) :
    civilOf (dayNumber c.year c.month c.day) = c := by
  obtain ⟨era, y, m, r, hday, ⟨hm, hlow, hhigh⟩, hc⟩ := exists_isYearDay h
  obtain ⟨era', y', m', r', hnumber⟩ := exists_isDayOf (dayNumber c.year c.month c.day)
  obtain ⟨rfl, rfl, rfl⟩ := hday.unique hnumber.isYearDay
  have hmonth : m = m' := by
    have hlow' := hnumber.month_le
    have hhigh' := hnumber.lt_month
    unfold daysBeforeMonth at hlow hhigh hlow' hhigh'
    omega
  rw [hnumber.civil, ← hmonth]
  exact hc.symm

/-- The years that are written with four digits, and many more, lie within the range of days. -/
theorem dayNumber_bounds {c : Civil} (h : isDay c.year c.month c.day = true)
    (hlow : -262142 ≤ c.year) (hhigh : c.year ≤ 262141) :
    firstDay ≤ dayNumber c.year c.month c.day ∧ dayNumber c.year c.month c.day ≤ lastDay := by
  obtain ⟨era, y, m, r, hday, -, hc⟩ := exists_isYearDay h
  have hyear : c.year = era * 400 + y + (if monthOf m ≤ 2 then 1 else 0) := by rw [hc]
  have hnumber := hday.number
  have hy := hday.year
  have hr := hday.day
  unfold daysBefore at hnumber
  unfold firstDay lastDay
  split at hyear <;> omega

end Calendar

/-! ## Dates -/

open Calendar

/-- A year, a month and a day denote the date that is written so. -/
theorem Date.ofCivil?_eq_some {c : Civil} {d : Date} :
    Date.ofCivil? c.year c.month c.day = some d ↔ d.civil = c := by
  constructor
  · intro h
    rw [Date.ofCivil?] at h
    split_ifs at h with hday
    unfold Date.ofNumber? at h
    split_ifs at h
    obtain rfl := Option.some.inj h
    exact civilOf_dayNumber hday
  · rintro rfl
    exact Date.ofCivil?_civil d

/-- Every day of the calendar in those years is that of a date. -/
theorem Date.exists_civil_eq {c : Civil} (h : isDay c.year c.month c.day = true)
    (hlow : -262142 ≤ c.year) (hhigh : c.year ≤ 262141) : ∃ d : Date, d.civil = c := by
  obtain ⟨hfirst, hlast⟩ := dayNumber_bounds h hlow hhigh
  exact ⟨⟨dayNumber c.year c.month c.day, hfirst, hlast⟩, civilOf_dayNumber h⟩

/-- A date is known by its number. -/
theorem Date.eq_iff {d e : Date} : d = e ↔ d.number = e.number := by
  cases d
  cases e
  simp

/-- The next date has the next number. -/
theorem Date.number_of_next? {d next : Date} (h : d.next? = some next) :
    next.number = d.number + 1 := by
  unfold Date.next? Date.ofNumber? at h
  split_ifs at h
  obtain rfl := Option.some.inj h
  rfl

/-- There is a day after every day but the last. -/
theorem Date.next?_eq_none_iff {d : Date} : d.next? = none ↔ d.number = Calendar.lastDay := by
  have hlow := d.firstDay_le
  have hhigh := d.le_lastDay
  unfold Date.next? Date.ofNumber?
  split_ifs with h
  · simp only [false_iff]
    omega
  · simp only [true_iff]
    omega

/-- The order of the numbers of dates is that of the calendar. -/
theorem Date.notAfter_civil_iff (a b : Date) : a.civil.NotAfter b.civil ↔ a.number ≤ b.number :=
  Calendar.notAfter_civilOf_iff a.number b.number

/-! ## Instants -/

namespace Timestamp

/-- Seconds are compared first, then nanoseconds. -/
theorem notAfter_iff (a b : Timestamp) :
    a.notAfter b = true ↔ a.second < b.second ∨ a.second = b.second ∧ a.nano ≤ b.nano := by
  simp only [notAfter, before, Bool.not_eq_true', Bool.or_eq_false_iff, Bool.and_eq_false_imp,
    decide_eq_false_iff_not, beq_iff_eq]
  omega

/-- What is not later is earlier or the same. -/
theorem notAfter_iff_before_or_eq (a b : Timestamp) :
    a.notAfter b = true ↔ a.before b = true ∨ a = b := by
  obtain ⟨s, n, _, _, _, _⟩ := a
  obtain ⟨t, m, _, _, _, _⟩ := b
  rw [notAfter_iff]
  simp only [before, Bool.or_eq_true, Bool.and_eq_true, decide_eq_true_eq, beq_iff_eq, mk.injEq]
  omega

/-- Not being later carries over. -/
theorem notAfter_trans {a b c : Timestamp} (hab : a.notAfter b = true) (hbc : b.notAfter c = true) :
    a.notAfter c = true := by
  rw [notAfter_iff] at *
  omega

/-- Of two times one is not later than the other. -/
theorem notAfter_total (a b : Timestamp) : a.notAfter b = true ∨ b.notAfter a = true := by
  rw [notAfter_iff, notAfter_iff]
  omega

/-- Each of two instants stands not after the other exactly if they are one. -/
theorem eq_iff_notAfter (a b : Timestamp) : a = b ↔ a.notAfter b = true ∧ b.notAfter a = true := by
  obtain ⟨s, n, _, _, _, _⟩ := a
  obtain ⟨t, m, _, _, _, _⟩ := b
  simp only [notAfter_iff, mk.injEq]
  omega

end Timestamp

end ChatArchive
