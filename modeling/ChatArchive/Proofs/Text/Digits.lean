import ChatArchive.Calendar.Date
import Mathlib.Data.Nat.Digits.Defs

/-!
# Decimal digits

The digits of a natural number denote it (`appendDigits_toDigits`), also with zeros in front of them
(`appendDigits_padded`), and a zero stands in front of them only if it is all there is
(`toDigits_eq_zero_cons`).  A numeral is any number of digits, with zeros in front or without
(`IsNumeral`).  Taking digits from a text stops at the end of a number if no digit follows it
(`takeWhile_digits`).
-/

namespace ChatArchive.Text

/-- The number that is denoted by digits which follow on those of another number. -/
def appendDigits (n : Nat) (ds : List Char) : Nat :=
  ds.foldl (fun n d => n * 10 + (d.toNat - '0'.toNat)) n

/-- A digit is taken in by the tens. -/
theorem appendDigits_cons (n : Nat) (d : Char) (ds : List Char) :
    appendDigits n (d :: ds) = appendDigits (n * 10 + (d.toNat - '0'.toNat)) ds :=
  List.foldl_cons ..

/-- More digits denote no smaller number. -/
theorem le_appendDigits (n : Nat) (ds : List Char) : n ≤ appendDigits n ds := by
  induction ds generalizing n with
  | nil => exact Nat.le_refl n
  | cons d ds ih =>
    rw [appendDigits_cons]
    exact Nat.le_trans (by omega) (ih _)

/-- Numbers are written in digits. -/
theorem isDigit_of_mem_toDigits {n : Nat} {c : Char} (h : c ∈ Nat.toDigits 10 n) :
    c.isDigit = true := Nat.isDigit_of_mem_toDigits (by decide) (by decide) h

/-- There is at least one of them. -/
theorem exists_toDigits_eq_cons (n : Nat) :
    ∃ d ds, Nat.toDigits 10 n = d :: ds ∧ d.isDigit = true := by
  cases hds : Nat.toDigits 10 n with
  | nil => exact absurd hds Nat.toDigits_ne_nil
  | cons d ds => exact ⟨d, ds, rfl, isDigit_of_mem_toDigits (hds ▸ List.mem_cons_self)⟩

/-- The digits of a number denote it. -/
theorem appendDigits_toDigits (n : Nat) : appendDigits 0 (Nat.toDigits 10 n) = n := by
  have h := Nat.ofDigitChars_toDigits (b := 10) (n := n) (by decide) (by decide)
  simpa [appendDigits, Nat.ofDigitChars, Nat.mul_comm] using h

/-- Only the digits of zero begin with a zero. -/
theorem toDigits_eq_zero_cons {n : Nat} {ds : List Char} (h : Nat.toDigits 10 n = '0' :: ds) :
    ds = [] := by
  induction n using Nat.strongRecOn generalizing ds with
  | ind n ih =>
    by_cases hn : n < 10
    · rw [Nat.toDigits_of_lt_base hn] at h
      exact (List.cons.inj h).2.symm
    · have hsplit : Nat.toDigits 10 (n / 10) ++ Nat.toDigits 10 (n % 10) = Nat.toDigits 10 n := by
        rw [Nat.toDigits_append_toDigits (by decide) (by omega) (Nat.mod_lt n (by decide)),
          Nat.div_add_mod]
      obtain ⟨c, cs, hfirst, -⟩ := exists_toDigits_eq_cons (n / 10)
      -- the first digits would be those of zero, but they denote more than that
      rw [← hsplit, hfirst, List.cons_append] at h
      obtain ⟨rfl, -⟩ := List.cons.inj h
      have hcs := ih (n / 10) (by omega) hfirst
      have hvalue := appendDigits_toDigits (n / 10)
      rw [hfirst, hcs, appendDigits_cons] at hvalue
      have hzero : n / 10 = 0 := hvalue.symm
      omega

/-! ## Padding -/

open Calendar (padded)

/-- Padded numbers are written in digits as well. -/
theorem isDigit_of_mem_padded {width n : Nat} {c : Char} (h : c ∈ padded width n) :
    c.isDigit = true := by
  rcases List.mem_append.mp h with hmem | hmem
  · rw [List.eq_of_mem_replicate hmem]
    rfl
  · exact isDigit_of_mem_toDigits hmem

/-- Zeros in front of digits count for nothing. -/
theorem appendDigits_padded (width n : Nat) : appendDigits 0 (padded width n) = n := by
  have hzeros : ∀ k ds, appendDigits 0 (List.replicate k '0' ++ ds) = appendDigits 0 ds := by
    intro k ds
    induction k with
    | zero => rfl
    | succ k ih => exact ih
  exact (hzeros _ _).trans (appendDigits_toDigits n)

/-- A number that fits the width has just so many digits. -/
theorem length_padded {width n : Nat} (hwidth : 0 < width) (h : n < 10 ^ width) :
    (padded width n).length = width := by
  have hlength : (Nat.toDigits 10 n).length ≤ width :=
    (Nat.length_toDigits_le_iff (by decide) hwidth).mpr h
  rw [padded, List.length_append, List.length_replicate]
  omega

/-- They are not empty either. -/
theorem padded_ne_nil (width n : Nat) : padded width n ≠ [] := by
  intro h
  exact Nat.toDigits_ne_nil (List.append_eq_nil_iff.mp h).2

/-! ## Numerals -/

/-- Digits, one at least, that denote a number. -/
structure IsNumeral (ds : List Char) (n : Nat) : Prop where
  digits : ∀ c ∈ ds, c.isDigit = true
  ne_nil : ds ≠ []
  value : appendDigits 0 ds = n

/-- A padded numeral is one of its number. -/
theorem isNumeral_padded (width n : Nat) : IsNumeral (padded width n) n :=
  ⟨fun _ => isDigit_of_mem_padded, padded_ne_nil width n, appendDigits_padded width n⟩

/-- As many digits as there are bound what they denote. -/
theorem appendDigits_lt {ds : List Char} (h : ∀ c ∈ ds, c.isDigit = true) (n : Nat) :
    appendDigits n ds < (n + 1) * 10 ^ ds.length := by
  induction ds generalizing n with
  | nil => simp [appendDigits]
  | cons d ds ih =>
    have hd : d.toNat - '0'.toNat < 10 := by
      have hhigh : d.toNat ≤ '9'.toNat := (Char.isDigit_iff_toNat.mp (h d List.mem_cons_self)).2
      have hbounds : '0'.toNat = 48 ∧ '9'.toNat = 57 := ⟨rfl, rfl⟩
      omega
    have hrest := ih (fun c hc => h c (List.mem_cons_of_mem d hc)) (n * 10 + (d.toNat - '0'.toNat))
    rw [appendDigits_cons, List.length_cons, Nat.pow_succ']
    calc appendDigits (n * 10 + (d.toNat - '0'.toNat)) ds
        < (n * 10 + (d.toNat - '0'.toNat) + 1) * 10 ^ ds.length := hrest
      _ ≤ (n + 1) * 10 * 10 ^ ds.length := Nat.mul_le_mul_right _ (by omega)
      _ = (n + 1) * (10 * 10 ^ ds.length) := Nat.mul_assoc ..

/-- The value of a numeral is bounded by its length. -/
theorem IsNumeral.lt_pow {ds : List Char} {n : Nat} (h : IsNumeral ds n) : n < 10 ^ ds.length := by
  have hlt := appendDigits_lt h.digits 0
  rwa [h.value, Nat.zero_add, Nat.one_mul] at hlt

/-! ## Digits in a text -/

/-- The text does not begin with a digit. -/
def NoDigitAhead (cs : List Char) : Prop := ∀ c ∈ cs.head?, c.isDigit = false

/-- Reading on while there are digits stops at the end of a numeral. -/
theorem takeWhile_digits {ds rest : List Char} (h : ∀ c ∈ ds, c.isDigit = true)
    (hrest : NoDigitAhead rest) : (ds ++ rest).takeWhile Char.isDigit = ds := by
  rw [List.takeWhile_append_of_pos h]
  cases rest with
  | nil => simp
  | cons c rest => simp [hrest c rfl]

end ChatArchive.Text
