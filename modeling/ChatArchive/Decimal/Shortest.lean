import ChatArchive.Word

/-!
# Shortest decimals

The decimal with the fewest digits that reads back as a given floating-point number; of several
such decimals the one nearest to the number, and of two that are equally near the one whose last
digit is even.

A positive number is held as `m * 2 ^ q`.  The reals that read back as it form an interval around
it, which contains its ends if `m` is even.  For each count of digits the two neighbours of the
number on the grid of that many digits are tested with exact arithmetic.
-/

namespace ChatArchive

/-- The decimal `digits * 10 ^ exponent`. -/
structure Decimal where
  digits : Nat
  exponent : Int
  deriving Repr, DecidableEq

namespace Decimal

/-! ## Binary numbers -/

/-- A positive binary floating-point number `m * 2 ^ q`. -/
structure Binary where
  m : Nat
  q : Int
  /-- Is the next smaller number only half as far away as the next larger one? -/
  lopsided : Bool
  deriving Repr, DecidableEq

/-- The magnitude of a finite number that is not zero. -/
def Binary.ofFloat (x : Float) : Binary :=
  let bits := x.toBits.toNat
  let fraction : Nat := bits % Word.size 52
  let exponent : Nat := bits / Word.size 52 % Word.size 11
  if exponent = 0 then ⟨fraction, -1074, false⟩
  else ⟨Word.size 52 + fraction, Int.ofNat exponent - 1075, fraction == 0 && 1 < exponent⟩

/-- `a * 2 ^ q` as a quotient. -/
def scaleTwo (a : Nat) (q : Int) : Nat × Nat :=
  if 0 ≤ q then (a * Nat.pow 2 q.toNat, 1) else (a, Nat.pow 2 (-q).toNat)

/-- `a * 10 ^ k` as a quotient. -/
def scaleTen (a : Nat) (k : Int) : Nat × Nat :=
  if 0 ≤ k then (a * Nat.pow 10 k.toNat, 1) else (a, Nat.pow 10 (-k).toNat)

/-- The order of two quotients. -/
def lessEq (a b : Nat × Nat) : Bool := a.1 * b.2 ≤ b.1 * a.2

/-- The strict order. -/
def less (a b : Nat × Nat) : Bool := a.1 * b.2 < b.1 * a.2

namespace Binary

/-- The number, in quarters of its last place so that the ends of the interval are whole. -/
def value (b : Binary) : Nat × Nat := scaleTwo (4 * b.m) (b.q - 2)

/-- The lower end of the reals that read back as the number. -/
def lower (b : Binary) : Nat × Nat :=
  scaleTwo (if b.lopsided then 4 * b.m - 1 else 4 * b.m - 2) (b.q - 2)

/-- The upper end. -/
def upper (b : Binary) : Nat × Nat := scaleTwo (4 * b.m + 2) (b.q - 2)

/-- Does a quotient read back as the number? -/
def admits (b : Binary) (x : Nat × Nat) : Bool :=
  if b.m % 2 = 0 then lessEq b.lower x && lessEq x b.upper
  else less b.lower x && less x b.upper

end Binary

/-! ## Decimal numbers -/

/-- The number of decimal digits. -/
def digitCount (n : Nat) : Nat := (Nat.toDigits 10 n).length

/-- The number of digits before the point of a positive quotient; zero or negative if it is
smaller than one.  No floating-point number is below `10 ^ -330`. -/
def magnitude (x : Nat × Nat) : Int := (digitCount (x.1 * Nat.pow 10 330 / x.2) : Int) - 330

/-- The distance of two quotients. -/
def distance (a b : Nat × Nat) : Nat × Nat :=
  let x := a.1 * b.2
  let y := b.1 * a.2
  (if x ≤ y then y - x else x - y, a.2 * b.2)

/-- The nearest point of a grid that reads back as the number. -/
def onGrid? (b : Binary) (k : Int) : Option Decimal :=
  let v := b.value
  let g := scaleTen 1 k
  let below := v.1 * g.2 / (v.2 * g.1)
  let fits := fun n => b.admits (scaleTen n k)
  match fits below, fits (below + 1) with
  | false, false => none
  | true, false => some ⟨below, k⟩
  | false, true => some ⟨below + 1, k⟩
  | true, true =>
    let down := distance v (scaleTen below k)
    let up := distance v (scaleTen (below + 1) k)
    if less down up then some ⟨below, k⟩
    else if less up down then some ⟨below + 1, k⟩
    else some ⟨if below % 2 = 0 then below else below + 1, k⟩

/-- Drop zeros at the end; a number of seventeen digits has at most sixteen. -/
def normalize : Nat → Decimal → Decimal
  | 0, d => d
  | n + 1, d =>
    if d.digits % 10 = 0 then normalize n ⟨d.digits / 10, d.exponent + 1⟩ else d

/-- The shortest decimal that reads back as the number.  Seventeen digits always suffice. -/
def shortest (b : Binary) : Decimal :=
  let size := magnitude b.value
  let grids := (List.range 17).map fun (i : Nat) => size - (i + 1 : Int)
  ((grids.findSome? (onGrid? b)).getD ⟨0, 0⟩).normalize 18

end Decimal

end ChatArchive
