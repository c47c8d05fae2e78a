import ChatArchive.Proofs.Calendar.Order
import ChatArchive.Snapshot.Metadata

/-!
# The age of a snapshot

A snapshot is expired if more time has passed since it was saved than some hours.  The time between
two instants is the difference of their nanoseconds (`Timestamp.since_eq`), if neither of them lies
in a leap second, and grows with the later one; a leap second makes it wrong by a second at most
(`Timestamp.since_bounds`).  So a snapshot that is expired remains so, and one that is fresh is so
for a higher limit (`MetadataSnapshot.expiry_by_age`).

A limit whose milliseconds do not fit into a word cannot be measured, and there is no answer for it
(`MetadataSnapshot.isExpired?_eq_none_iff`).
-/

namespace ChatArchive

open Calendar (nanosPerSecond)

/-! ## The time between instants -/

namespace Timestamp

/-- The nanoseconds since the start of 1970.  Those of a leap second are also those of the second
behind it. -/
def nanos (t : Timestamp) : Int := t.second * nanosPerSecond + t.nano

/-- The instant lies in a leap second. -/
def InLeapSecond (t : Timestamp) : Prop := nanosPerSecond ≤ t.nano

/-- It can be decided, for the nanoseconds can be compared. -/
instance (t : Timestamp) : Decidable t.InLeapSecond := inferInstanceAs (Decidable (_ ≤ _))

/-- Outside leap seconds the time between two instants is the difference of their nanoseconds. -/
theorem since_eq {later earlier : Timestamp} (hlater : ¬later.InLeapSecond)
    (hearlier : ¬earlier.InLeapSecond) : later.since earlier = later.nanos - earlier.nanos := by
  unfold InLeapSecond at hlater hearlier
  unfold since nanos
  dsimp only
  rw [if_neg fun h => hearlier h.2, if_neg fun h => hlater h.2]
  simp only [nanosPerSecond]
  omega

/-- A leap second makes the time between two instants wrong by a second at most. -/
theorem since_bounds (later earlier : Timestamp) :
    later.nanos - earlier.nanos - nanosPerSecond ≤ later.since earlier ∧
      later.since earlier ≤ later.nanos - earlier.nanos + nanosPerSecond := by
  unfold since nanos
  simp only [nanosPerSecond]
  split_ifs <;> omega

/-- Outside leap seconds the nanoseconds are in the order of the instants. -/
theorem nanos_le_of_notAfter {a b : Timestamp} (ha : ¬a.InLeapSecond)
    (h : a.notAfter b = true) : a.nanos ≤ b.nanos := by
  unfold InLeapSecond at ha
  rw [notAfter_iff] at h
  unfold nanos
  simp only [nanosPerSecond] at ha ⊢
  omega

/-- The time since an instant grows as time passes, outside leap seconds. -/
theorem since_le_since {now later earlier : Timestamp} (hnow : ¬now.InLeapSecond)
    (hlater : ¬later.InLeapSecond) (hearlier : ¬earlier.InLeapSecond)
    (h : now.notAfter later = true) : now.since earlier ≤ later.since earlier := by
  have hnanos := nanos_le_of_notAfter hnow h
  rw [since_eq hnow hearlier, since_eq hlater hearlier]
  omega

/-- Three seconds make up for all leap seconds. -/
theorem since_lt_since {now later : Timestamp} (h : now.second + 3 ≤ later.second)
    (earlier : Timestamp) : now.since earlier < later.since earlier := by
  have hnow := now.nano_lt
  unfold since
  simp only [nanosPerSecond] at hnow ⊢
  split_ifs <;> omega

end Timestamp

/-! ## Expired snapshots -/

namespace Snapshot

/-- The most hours that can be measured. -/
def mostHours : Nat := 2562047788015

/-- The milliseconds of an hour are so many that the word is full soon after these hours. -/
theorem isMeasurable_iff (hours : Int) : isMeasurable hours = true ↔ hours.natAbs ≤ mostHours := by
  have hword : Word.maxNat 63 = 9223372036854775807 := by decide
  unfold isMeasurable mostHours
  rw [decide_eq_true_iff, hword]
  omega

end Snapshot

namespace MetadataSnapshot

open Timestamp

variable {s : MetadataSnapshot} {hours : Int} {now : Timestamp}

/-- There is no answer for a limit that cannot be measured, and for no other. -/
theorem isExpired?_eq_none_iff :
    s.isExpired? hours now = none ↔ Snapshot.mostHours < hours.natAbs := by
  have hmeasurable := Snapshot.isMeasurable_iff hours
  unfold isExpired?
  split_ifs with h
  · simp only [false_iff, Nat.not_lt]
    exact hmeasurable.mp h
  · simp only [true_iff]
    exact Nat.lt_of_not_le fun hle => h (hmeasurable.mpr hle)

/-- The answer for a limit that can be measured. -/
theorem isExpired?_eq_some_iff {expired : Bool} : s.isExpired? hours now = some expired ↔
    hours.natAbs ≤ Snapshot.mostHours ∧
      decide (hours * 3600 * nanosPerSecond < now.since s.savedAt) = expired := by
  have hmeasurable := Snapshot.isMeasurable_iff hours
  unfold isExpired?
  split_ifs with h
  · simp only [Option.some.injEq, hmeasurable.mp h, true_and]
  · simp only [false_iff, not_and]
    exact fun hle => absurd (hmeasurable.mpr hle) h

/-- A snapshot is expired if more time has passed than the limit allows, and the limit can be
measured. -/
theorem isExpired?_eq_true_iff : s.isExpired? hours now = some true ↔
    hours.natAbs ≤ Snapshot.mostHours ∧
      hours * 3600 * nanosPerSecond < now.since s.savedAt := by
  rw [isExpired?_eq_some_iff, decide_eq_true_iff]

/-- It is fresh if no more time has passed, and the limit can be measured. -/
theorem isExpired?_eq_false_iff : s.isExpired? hours now = some false ↔
    hours.natAbs ≤ Snapshot.mostHours ∧
      now.since s.savedAt ≤ hours * 3600 * nanosPerSecond := by
  rw [isExpired?_eq_some_iff, decide_eq_false_iff_not, Int.not_lt]

/-- There is an answer for every limit that can be measured, and for no other.  It says that the
snapshot is expired if the time since it was saved exceeds the limit, but for a second where a leap
second is involved.  A snapshot that is expired is so at every later instant, where no leap second
is involved or three seconds have passed, and one that is fresh is so for every higher limit that
can be measured. -/
theorem expiry_by_age (s : MetadataSnapshot) (hours : Int) :
    (∀ now, s.isExpired? hours now = none ↔ Snapshot.mostHours < hours.natAbs) ∧
    (hours.natAbs ≤ Snapshot.mostHours → ∀ now, ∃ expired, s.isExpired? hours now = some expired ∧
      (expired = true ↔ hours * 3600 * nanosPerSecond < now.since s.savedAt) ∧
      (¬now.InLeapSecond → ¬s.savedAt.InLeapSecond →
        (expired = true ↔ hours * 3600 * nanosPerSecond < now.nanos - s.savedAt.nanos)) ∧
      ((hours * 3600 + 1) * nanosPerSecond < now.nanos - s.savedAt.nanos → expired = true) ∧
      (expired = true → (hours * 3600 - 1) * nanosPerSecond < now.nanos - s.savedAt.nanos)) ∧
    (∀ now later, s.isExpired? hours now = some true →
      (now.notAfter later = true ∧ ¬now.InLeapSecond ∧ ¬later.InLeapSecond ∧
          ¬s.savedAt.InLeapSecond ∨ now.second + 3 ≤ later.second) →
        s.isExpired? hours later = some true) ∧
    (∀ now more, s.isExpired? hours now = some false → hours ≤ more →
      more.natAbs ≤ Snapshot.mostHours → s.isExpired? more now = some false) := by
  refine ⟨fun now => isExpired?_eq_none_iff, ?_, ?_, ?_⟩
  · intro hhours now
    obtain ⟨hlow, hhigh⟩ := since_bounds now s.savedAt
    refine ⟨_, isExpired?_eq_some_iff.mpr ⟨hhours, rfl⟩, decide_eq_true_iff, ?_, ?_, ?_⟩
    · intro hnow hsaved
      rw [← since_eq hnow hsaved]
      exact decide_eq_true_iff
    · intro hage
      rw [Int.add_mul, Int.one_mul] at hage
      exact decide_eq_true (by omega)
    · intro hexpired
      have hage := of_decide_eq_true hexpired
      rw [Int.sub_mul, Int.one_mul]
      omega
  · intro now later hexpired hlater
    obtain ⟨hhours, hage⟩ := isExpired?_eq_true_iff.mp hexpired
    have hgrows : now.since s.savedAt ≤ later.since s.savedAt := by
      rcases hlater with ⟨horder, hnow, hthen, hsaved⟩ | hpassed
      · exact since_le_since hnow hthen hsaved horder
      · exact Int.le_of_lt (since_lt_since hpassed s.savedAt)
    exact isExpired?_eq_true_iff.mpr ⟨hhours, Int.lt_of_lt_of_le hage hgrows⟩
  · intro now more hfresh hle hmore
    obtain ⟨-, hage⟩ := isExpired?_eq_false_iff.mp hfresh
    have hlimit : hours * 3600 * nanosPerSecond ≤ more * 3600 * nanosPerSecond := by
      simp only [nanosPerSecond]
      omega
    exact isExpired?_eq_false_iff.mpr ⟨hmore, Int.le_trans hage hlimit⟩

/-- A snapshot of 1970 is expired an hour and a nanosecond later and from then on, and is fresh then
for higher limits. -/
theorem expiry_by_age_after_hour :
    let s : MetadataSnapshot := ⟨1, .epoch, []⟩
    let now : Timestamp := ⟨3600, 1, by decide, by decide, by decide, by decide⟩
    let later : Timestamp := ⟨3600, 2, by decide, by decide, by decide, by decide⟩
    let leapSecond : Timestamp := ⟨7199, 1500000000, by decide, by decide, by decide, by decide⟩
    (∃ expired, s.isExpired? 1 now = some expired ∧
      (expired = true ↔ 1 * 3600 * (nanosPerSecond : Int) < now.nanos - s.savedAt.nanos)) ∧
    s.isExpired? 1 now = some true ∧ s.isExpired? 1 later = some true ∧
    s.isExpired? 1 leapSecond = some true ∧
    s.isExpired? 2 now = some false ∧ s.isExpired? Snapshot.mostHours now = some false := by
  intro s now later leapSecond
  have hexpired : s.isExpired? 1 now = some true := by decide
  have hfresh : s.isExpired? 2 now = some false := by decide
  obtain ⟨-, hanswer, hremains, -⟩ := s.expiry_by_age 1
  obtain ⟨-, -, -, hhigher⟩ := s.expiry_by_age 2
  obtain ⟨expired, hsome, -, hnanos, -⟩ := hanswer (by decide) now
  have hlater := hremains now later hexpired
    (.inl ⟨by decide, by decide, by decide, by decide⟩)
  have hleap := hremains now leapSecond hexpired (.inr (by decide))
  have hmost := hhigher now Snapshot.mostHours hfresh (by decide) (by decide)
  exact ⟨⟨expired, hsome, hnanos (by decide) (by decide)⟩, hexpired, hlater, hleap, hfresh, hmost⟩

/-- There is no answer for the highest limit that the settings can hold. -/
theorem no_expiry_of_maxInt :
    Word.holdsInt 64 (Word.maxInt 64) = true ∧
      (⟨1, .epoch, []⟩ : MetadataSnapshot).isExpired? (Word.maxInt 64) .epoch = none := by
  decide

/-- What was saved in a leap second can be fresh again after midnight. -/
example :
    let s : MetadataSnapshot :=
      ⟨1, ⟨82799, 1500000000, by decide, by decide, by decide, by decide⟩, []⟩
    let now : Timestamp := ⟨86399, 900000000, by decide, by decide, by decide, by decide⟩
    let midnight : Timestamp := ⟨86400, 0, by decide, by decide, by decide, by decide⟩
    now.before midnight = true ∧ s.isExpired? 1 now = some true ∧
      s.isExpired? 1 midnight = some false := by
  decide

end MetadataSnapshot

end ChatArchive
