import ChatArchive.Proofs.Calendar.Order
import ChatArchive.Proofs.Filter.Verdict

/-!
# Bounds by days

A bound is given as a day and kept as an instant.  The lower bound is the start of its day: what it
lets in lies on that day or later (`startOf_notAfter_iff`).  The upper bound is the last nanosecond
of its day, leap seconds apart: what it lets in lies on that day or earlier, but in no leap second
at the end of the day (`notAfter_end_iff`).

So what is let in between two days are the instants of these days and of those between them, but
for such a leap second, and an archive that is cut at a day loses nothing else and repeats nothing
(`admits_by_days`).
-/

namespace ChatArchive

open Calendar (secondsPerDay nanosPerSecond)

/-! ## Starts and ends of days -/

namespace Timestamp

/-- The instant lies in a leap second at the end of a day. -/
structure IsLeapOf (t : Timestamp) (d : Date) : Prop where
  date : t.date = d
  last : t.secondOfDay = secondsPerDay - 1
  leap : nanosPerSecond ≤ t.nano

/-- What does not lie before the start of a day lies on the day or later. -/
theorem startOf_notAfter_iff (d : Date) (t : Timestamp) :
    (startOf d).notAfter t = true ↔ d.number ≤ t.date.number := by
  rw [notAfter_iff]
  simp only [startOf, date, secondsPerDay]
  omega

/-- The end of a day is the last nanosecond of its last second. -/
theorem exists_endOf {d next : Date} (hnext : d.next? = some next) :
    ∃ e, endOf? d = some e ∧ e.second = d.number * secondsPerDay + (secondsPerDay - 1) ∧
      e.nano = nanosPerSecond - 1 := by
  have hnumber := Date.number_of_next? hnext
  have hlow := d.firstDay_le
  have hhigh := next.le_lastDay
  have hfirst : Calendar.firstDay * secondsPerDay ≤ next.number * secondsPerDay - 1 := by
    unfold secondsPerDay
    omega
  have hend : next.number * secondsPerDay - 1 < (Calendar.lastDay + 1) * secondsPerDay := by
    unfold secondsPerDay
    omega
  have hnoLeap : ¬ nanosPerSecond ≤ nanosPerSecond - 1 := by decide
  unfold endOf? ofParts?
  rw [hnext]
  refine ⟨_, dif_pos ⟨hfirst, hend, by decide, fun hleap => absurd hleap hnoLeap⟩, ?_, rfl⟩
  simp only [secondsPerDay]
  omega

/-- What does not lie behind the end of a day lies on the day or earlier, but not in a leap second
at its end. -/
theorem notAfter_end_iff {d : Date} {e : Timestamp}
    (hsecond : e.second = d.number * secondsPerDay + (secondsPerDay - 1))
    (hnano : e.nano = nanosPerSecond - 1) (t : Timestamp) :
    t.notAfter e = true ↔ t.date.number ≤ d.number ∧ ¬ t.IsLeapOf d := by
  -- a leap second bears the number of the second before it, which is that of the end
  have hleap : t.IsLeapOf d ↔ t.second = e.second ∧ nanosPerSecond ≤ t.nano := by
    rw [hsecond]
    constructor
    · rintro ⟨rfl, hlast, hleap⟩
      refine ⟨?_, hleap⟩
      simp only [secondOfDay, date, secondsPerDay] at hlast ⊢
      omega
    · rintro ⟨heq, hleap⟩
      refine ⟨Date.eq_iff.mpr ?_, ?_, hleap⟩
      · simp only [date, secondsPerDay] at heq ⊢
        omega
      · simp only [secondOfDay, secondsPerDay] at heq ⊢
        omega
  rw [notAfter_iff, hleap, hnano]
  simp only [date, secondsPerDay, nanosPerSecond] at hsecond ⊢
  omega

/-- The end of a day as an upper bound.  The last day of all has no end, and no bound. -/
theorem notAfter_endOf_iff (d : Date) (t : Timestamp) :
    (∀ e, endOf? d = some e → t.notAfter e = true) ↔
      t.date.number ≤ d.number ∧ (t.IsLeapOf d → d.next? = none) := by
  cases hnext : d.next? with
  | some next =>
    obtain ⟨e, he, hsecond, hnano⟩ := exists_endOf hnext
    simp only [he, Option.some.injEq, forall_eq', notAfter_end_iff hsecond hnano, reduceCtorEq,
      imp_false]
  | none =>
    have hlast := Date.next?_eq_none_iff.mp hnext
    have hnone : endOf? d = none := by
      unfold endOf?
      rw [hnext]
      rfl
    have hle := t.date.le_lastDay
    simp [hnone, hlast, hle]

end Timestamp

namespace Criteria

open Timestamp

variable {c : Criteria} {t : Timestamp}

/-! ## Bounds -/

/-- A lower bound admits the times from its date on. -/
theorem admits_afterDate (h : c.admits t = true) (a : Date) :
    (c.afterDate a).admits t = true ↔ a.number ≤ t.date.number := by
  rw [admits_iff] at h ⊢
  unfold Within afterDate
  simp only [Option.some.injEq, forall_eq', startOf_notAfter_iff]
  exact and_iff_left h.2

/-- An upper bound admits the times up to its date, without a leap second at the end of that
date. -/
theorem admits_beforeDate (h : c.admits t = true) (b : Date) : (c.beforeDate b).admits t = true ↔
    t.date.number ≤ b.number ∧ (t.IsLeapOf b → b.next? = none) := by
  rw [admits_iff] at h ⊢
  unfold Within beforeDate
  simp only [notAfter_endOf_iff]
  exact and_iff_right h.1

/-- Between two days is let in what has its day between them, unless it lies in a leap second at the
end of the later one, and that is not the last of all.  Of two neighbouring days that one ends with
and the other begins with, just one lets an instant in, but none lets in such a leap second. -/
theorem admits_by_days (c : Criteria) (a b : Date) (t : Timestamp) :
    (((c.afterDate a).beforeDate b).admits t = true ↔
      a.civil.NotAfter t.date.civil ∧ t.date.civil.NotAfter b.civil ∧
        (t.IsLeapOf b → b.next? = none)) ∧
    ∀ next, b.next? = some next → c.admits t = true →
      (¬ t.IsLeapOf b → (c.beforeDate b).admits t = !(c.afterDate next).admits t) ∧
      (t.IsLeapOf b →
        (c.beforeDate b).admits t = false ∧ (c.afterDate next).admits t = false) := by
  refine ⟨?_, ?_⟩
  · rw [admits_iff, Date.notAfter_civil_iff, Date.notAfter_civil_iff]
    unfold Within afterDate beforeDate
    simp only [Option.some.injEq, forall_eq', startOf_notAfter_iff, notAfter_endOf_iff]
  · intro next hnext hadmits
    have hbefore := admits_beforeDate hadmits b
    have hafter := admits_afterDate hadmits next
    have hnumber := Date.number_of_next? hnext
    rw [hnext] at hbefore
    refine ⟨?_, ?_⟩
    · intro hleap
      rw [Bool.eq_not_iff, ne_eq, Bool.eq_iff_iff, hbefore, hafter]
      simp only [hleap, false_implies, and_true]
      omega
    · intro hleap
      refine ⟨?_, ?_⟩
      · rw [← Bool.not_eq_true, hbefore]
        rintro ⟨-, hnone⟩
        cases hnone hleap
      · rw [← Bool.not_eq_true, hafter, hleap.date]
        omega

/-- The last day of 2016, which ended with a leap second. -/
def lastOf2016 : Date := ⟨17166, by decide, by decide⟩

example : lastOf2016.civil = ⟨2016, 12, 31⟩ := by decide

/-- The day after it. -/
def firstOf2017 : Date := ⟨17167, by decide, by decide⟩

/-- Half a second into the leap second of some minute of that day. -/
def leapSecondOf (minute : Fin 1440) : Timestamp where
  second := 17166 * secondsPerDay + minute * 60 + 59
  nano := nanosPerSecond + nanosPerSecond / 2
  firstDay_le := by
    simp only [Calendar.firstDay, secondsPerDay]
    omega
  lt_end := by
    simp only [Calendar.lastDay, secondsPerDay]
    omega
  nano_lt := by decide
  leap_at_end := by
    intro
    simp only [secondsPerDay]
    omega

/-- The second is the leap second at the end of 2016. -/
theorem isLeapOf_last : (leapSecondOf 1439).IsLeapOf lastOf2016 where
  date := rfl
  last := rfl
  leap := by decide

/-- A leap second at noon is let in like any other instant, and the one at the end of the day by
neither of two neighbouring days. -/
theorem admits_by_days_of_leap_seconds :
    lastOf2016.next? = some firstOf2017 ∧
      ¬ (leapSecondOf 719).IsLeapOf lastOf2016 ∧
      (∀ minute, empty.admits (leapSecondOf minute) = true) ∧
      (empty.beforeDate lastOf2016).admits (leapSecondOf 719) =
        !(empty.afterDate firstOf2017).admits (leapSecondOf 719) ∧
      (empty.beforeDate lastOf2016).admits (leapSecondOf 1439) = false ∧
      (empty.afterDate firstOf2017).admits (leapSecondOf 1439) = false := by
  have hnext : lastOf2016.next? = some firstOf2017 := rfl
  have hnoon : ¬ (leapSecondOf 719).IsLeapOf lastOf2016 := by
    intro h
    exact absurd h.last (by decide)
  have hadmits : ∀ minute, empty.admits (leapSecondOf minute) = true := fun _ => rfl
  obtain ⟨-, hcut⟩ := admits_by_days empty lastOf2016 lastOf2016 (leapSecondOf 719)
  obtain ⟨-, hmissed⟩ := admits_by_days empty lastOf2016 lastOf2016 (leapSecondOf 1439)
  exact ⟨hnext, hnoon, hadmits, (hcut _ hnext (hadmits _)).1 hnoon,
    (hmissed _ hnext (hadmits _)).2 isLeapOf_last⟩

/-- Not every instant of a day is let in by bounds that begin and end with the day. -/
theorem leap_second_is_left_out :
    ¬ ∀ (q : Query) (a b : Date) (t : Timestamp),
      ((((ofQuery q).afterDate a).beforeDate b).admits t = true ↔
        a.civil.NotAfter t.date.civil ∧ t.date.civil.NotAfter b.civil) := by
  intro hbounds
  have hday := hbounds Query.empty lastOf2016 lastOf2016 (leapSecondOf 1439)
  rw [isLeapOf_last.date] at hday
  have hself : lastOf2016.civil.NotAfter lastOf2016.civil :=
    (Date.notAfter_civil_iff _ _).mpr (Int.le_refl _)
  have hin := hday.mpr ⟨hself, hself⟩
  have hout : (((ofQuery Query.empty).afterDate lastOf2016).beforeDate lastOf2016).admits
      (leapSecondOf 1439) = false := by decide
  rw [hout] at hin
  cases hin

end Criteria

end ChatArchive
