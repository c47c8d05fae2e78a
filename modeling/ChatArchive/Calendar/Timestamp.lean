import ChatArchive.Calendar.Date

/-!
# Timestamps

Instants of universal time with a resolution of a nanosecond.  A leap second belongs to the last
second of its minute: its nanoseconds count on from a thousand million.  The order is that of the
seconds, then that of the nanoseconds.

A clock is the sequence of its readings, so that what depends on the time of day is a function of
the clock.
-/

namespace ChatArchive

open Calendar

namespace Calendar

/-- The nanoseconds of a second. -/
def nanosPerSecond : Nat := 1000000000

/-- The seconds of a day. -/
def secondsPerDay : Int := 86400

end Calendar

/-- An instant: seconds since the start of 1970, not counting leap seconds, and nanoseconds. -/
structure Timestamp where
  second : Int
  nano : Nat
  firstDay_le : firstDay * secondsPerDay ≤ second
  lt_end : second < (lastDay + 1) * secondsPerDay
  nano_lt : nano < 2 * nanosPerSecond
  leap_at_end : nanosPerSecond ≤ nano → second % 60 = 59

namespace Timestamp

instance : DecidableEq Timestamp := fun a b =>
  if h : a.second = b.second ∧ a.nano = b.nano then .isTrue (by cases a; cases b; simp_all)
  else .isFalse fun e => h (by rw [e]; exact ⟨rfl, rfl⟩)

/-- The start of 1970. -/
def epoch : Timestamp where
  second := 0
  nano := 0
  firstDay_le := by decide
  lt_end := by decide
  nano_lt := by decide
  leap_at_end := by decide

instance : Inhabited Timestamp := ⟨epoch⟩

/-- The instant of some seconds and nanoseconds. -/
def ofParts? (second : Int) (nano : Nat) : Option Timestamp :=
  if h : firstDay * secondsPerDay ≤ second ∧ second < (lastDay + 1) * secondsPerDay ∧
      nano < 2 * nanosPerSecond ∧ (nanosPerSecond ≤ nano → second % 60 = 59) then
    some ⟨second, nano, h.1, h.2.1, h.2.2.1, h.2.2.2⟩
  else none

/-- The instant of some milliseconds since the start of 1970. -/
def ofMillis? (millis : Int) : Option Timestamp :=
  ofParts? (millis / 1000) ((millis % 1000).toNat * 1000000)

/-! ## Order -/

/-- Is the first instant before the second? -/
def before (a b : Timestamp) : Bool :=
  a.second < b.second || (a.second == b.second && a.nano < b.nano)

/-- Is the first instant not after the second? -/
def notAfter (a b : Timestamp) : Bool := !b.before a

/-! ## Days -/

/-- The day of an instant. -/
def date (t : Timestamp) : Date where
  number := t.second / secondsPerDay
  firstDay_le := by
    have := t.firstDay_le
    simp only [secondsPerDay] at *
    omega
  le_lastDay := by
    have := t.lt_end
    simp only [secondsPerDay] at *
    omega

/-- The seconds of the day before an instant. -/
def secondOfDay (t : Timestamp) : Int := t.second % secondsPerDay

/-- The start of a day. -/
def startOf (d : Date) : Timestamp where
  second := d.number * secondsPerDay
  nano := 0
  firstDay_le := by
    have := d.firstDay_le
    simp only [secondsPerDay]
    omega
  lt_end := by
    have := d.le_lastDay
    simp only [secondsPerDay]
    omega
  nano_lt := by decide
  leap_at_end := fun h => absurd h (by decide)

/-- The last nanosecond of a day, leap seconds apart; nothing for the last day. -/
def endOf? (d : Date) : Option Timestamp := do
  let next ← d.next?
  ofParts? (next.number * secondsPerDay - 1) (nanosPerSecond - 1)

/-! ## Differences -/

/-- The nanoseconds from one instant to another.  A leap second counts where it lies between the
two times of day. -/
def since (later earlier : Timestamp) : Int :=
  let a := later.secondOfDay
  let b := earlier.secondOfDay
  let leap : Int :=
    if b < a ∧ nanosPerSecond ≤ earlier.nano then 1
    else if a < b ∧ nanosPerSecond ≤ later.nano then -1
    else 0
  (later.second - earlier.second + leap) * nanosPerSecond + (later.nano - earlier.nano)

end Timestamp

/-- The readings of a clock, one after the other. -/
abbrev Clock := Nat → Timestamp

end ChatArchive
