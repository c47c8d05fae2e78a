import ChatArchive.Proofs.Unicode.CharSet
import ChatArchive.Unicode.CaseMap

/-!
# Case mappings

A list of runs keeps a code point that no run covers, and moves any other (`mapRuns_cases`).  The
lowercase runs move a code point to one that none of them covers, so that mapping it again changes
nothing (`mapRuns_mapRuns`), and they never move one to white space or to a mark
(`eq_of_holds_mapRuns`).

Runs are compared end by end and not code point by code point.
-/

namespace ChatArchive.Unicode

namespace CaseRun

/-- The last code point to which a run moves one. -/
def highest (r : CaseRun) : Nat := r.image + (r.last - r.first)

/-- The images of the one run are all even and the sources of the other odd, or the other way
round. -/
def interlaces (r s : CaseRun) : Bool :=
  s.step == 2 && (r.step == 2 || r.first == r.last) && (r.image + s.first) % 2 == 1

/-- None of the runs covers an image of the one run; those behind the last image need no look. -/
def isClear (r : CaseRun) : List CaseRun → Bool
  | [] => true
  | s :: rs =>
    if s.last < r.image then r.isClear rs else r.highest < s.first || r.interlaces s && r.isClear rs

/-- The images of the run do not reach the range. -/
def Misses (r : CaseRun) (range : Nat × Nat) : Prop := r.highest < range.1 ∨ range.2 < r.image

/-- It can be decided, by the bounds of the run and of the range. -/
instance (r : CaseRun) (range : Nat × Nat) : Decidable (r.Misses range) :=
  inferInstanceAs (Decidable (_ ∨ _))

/-- A run covers every character at a distance of its step from the first one. -/
theorem covers_iff {r : CaseRun} {n : Nat} :
    r.covers n = true ↔ (r.first ≤ n ∧ n ≤ r.last) ∧ (n - r.first) % r.step = 0 := by
  simp [covers]

variable {r s : CaseRun} {n : Nat} (hn : r.covers n = true)
include hn

/-- It moves them between its image and its highest character. -/
theorem move_bounds : r.image ≤ r.move n ∧ r.move n ≤ r.highest := by
  obtain ⟨hrange, -⟩ := covers_iff.mp hn
  unfold move highest
  omega

/-- Where two runs interlace, what the one moves is not covered by the other. -/
theorem not_covers_move (h : r.interlaces s = true) : s.covers (r.move n) = false := by
  refine eq_false_of_ne_true fun hs => ?_
  obtain ⟨hsrange, hsstep⟩ := covers_iff.mp hs
  obtain ⟨hrrange, hrstep⟩ := covers_iff.mp hn
  simp only [interlaces, Bool.and_eq_true, Bool.or_eq_true, beq_iff_eq] at h
  obtain ⟨⟨hstep, hone⟩, hparity⟩ := h
  have heven : (n - r.first) % 2 = 0 := by
    rcases hone with hone | hone
    · rwa [hone] at hrstep
    · omega
  rw [hstep] at hsstep
  unfold move at hsrange hsstep
  omega

/-- Runs that are clear of a run keep its images. -/
theorem mapRuns_move {rs : List CaseRun} (h : r.isClear rs = true) :
    mapRuns rs (r.move n) = r.move n := by
  obtain ⟨hlow, hhigh⟩ := move_bounds hn
  induction rs with
  | nil => rfl
  | cons s rs ih =>
    rw [mapRuns]
    split_ifs with hbelow hcovers
    · rfl
    · have hsrange := (covers_iff.mp hcovers).1
      rw [isClear, if_neg (by omega), Bool.or_eq_true, Bool.and_eq_true,
        decide_eq_true_eq] at h
      rcases h with hbehind | ⟨hinterlaces, -⟩
      · omega
      · rw [not_covers_move hn hinterlaces] at hcovers
        cases hcovers
    · apply ih
      rw [isClear] at h
      split_ifs at h with hbefore
      · exact h
      · rw [Bool.or_eq_true, Bool.and_eq_true, decide_eq_true_eq] at h
        rcases h with hbehind | ⟨-, hrest⟩
        · omega
        · exact hrest

/-- What a run moves is in none of the ranges that it misses. -/
theorem not_holds_move {ranges : List (Nat × Nat)} (h : ∀ range ∈ ranges, r.Misses range) :
    ¬CharSet.Holds ranges (r.move n) := by
  rintro ⟨range, hmem, hrange⟩
  obtain ⟨hlow, hhigh⟩ := move_bounds hn
  rcases h range hmem with h | h
  · omega
  · omega

end CaseRun

/-- A code point is kept, or a run that covers it moves it. -/
theorem mapRuns_cases (rs : List CaseRun) (n : Nat) :
    mapRuns rs n = n ∨ ∃ r ∈ rs, r.covers n = true ∧ mapRuns rs n = r.move n := by
  induction rs with
  | nil => exact .inl rfl
  | cons r rs ih =>
    rw [mapRuns]
    split_ifs with hbelow hcovers
    · exact .inl rfl
    · exact .inr ⟨r, List.mem_cons_self, hcovers, rfl⟩
    · exact ih.imp_right fun ⟨s, hs, hsource⟩ => ⟨s, List.mem_cons_of_mem r hs, hsource⟩

/-! ## Lowercase -/

/-- No run of the lowercase moves a character to one that is moved again. -/
theorem isClear_lowercaseRuns : ∀ r ∈ lowercaseRuns, r.isClear lowercaseRuns = true := by
  decide +kernel

/-- The lowercase of a code point is its own lowercase. -/
theorem mapRuns_mapRuns (n : Nat) :
    mapRuns lowercaseRuns (mapRuns lowercaseRuns n) = mapRuns lowercaseRuns n := by
  rcases mapRuns_cases lowercaseRuns n with hkept | ⟨r, hr, hcovers, hmove⟩
  · rw [hkept, hkept]
  · rw [hmove, CaseRun.mapRuns_move hcovers (isClear_lowercaseRuns r hr)]

/-- The code points to which no lowercase run moves another: commas, bars, the capital I with a dot,
surrogates and white space. -/
def keptApart : List (Nat × Nat) :=
  (0x2C, 0x2C) :: (0x7C, 0x7C) :: (0x130, 0x130) :: (0xD800, 0xDFFF) :: CharSet.whiteSpace.ranges

/-- None moves one out of the characters, or to one that is kept apart. -/
theorem lowercaseRuns_miss : ∀ r ∈ lowercaseRuns, r.highest < 0x110000 ∧
    ∀ range ∈ keptApart, r.Misses range := by
  decide +kernel

/-- Such a code point is the lowercase of itself only. -/
theorem eq_of_holds_mapRuns {n : Nat} (h : CharSet.Holds keptApart (mapRuns lowercaseRuns n)) :
    mapRuns lowercaseRuns n = n := by
  rcases mapRuns_cases lowercaseRuns n with hkept | ⟨r, hr, hcovers, hmove⟩
  · exact hkept
  · rw [hmove] at h
    exact absurd h (CaseRun.not_holds_move hcovers (lowercaseRuns_miss r hr).2)

/-- The lowercase of a character is a character. -/
theorem isValidChar_mapRuns {n : Nat} (h : n.isValidChar) :
    (mapRuns lowercaseRuns n).isValidChar := by
  rcases mapRuns_cases lowercaseRuns n with hkept | ⟨r, hr, hcovers, hmove⟩
  · rwa [hkept]
  · obtain ⟨hhighest, hmisses⟩ := lowercaseRuns_miss r hr
    have hbounds := CaseRun.move_bounds hcovers
    have hsurrogates : r.highest < 0xD800 ∨ 0xDFFF < r.image :=
      hmisses (0xD800, 0xDFFF) (by simp [keptApart])
    rw [hmove]
    unfold Nat.isValidChar
    omega

end ChatArchive.Unicode
