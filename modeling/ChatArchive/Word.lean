/-!
# Words

The integers that words of some number of bits can hold.
-/

namespace ChatArchive.Word

/-- The number of values of a word. -/
def size (bits : Nat) : Nat := Nat.pow 2 bits

/-- The greatest natural number in a word. -/
def maxNat (bits : Nat) : Nat := size bits - 1

/-- The least integer in a word that has a sign. -/
def minInt (bits : Nat) : Int := -(size (bits - 1) : Int)

/-- The greatest integer in a word that has a sign. -/
def maxInt (bits : Nat) : Int := (size (bits - 1) : Int) - 1

/-- Is an integer one of a word that has a sign? -/
def holdsInt (bits : Nat) (n : Int) : Bool := minInt bits ≤ n && n ≤ maxInt bits

/-- Is an integer one of a word with a sign, or one of a word without? -/
def holds (bits : Nat) (n : Int) : Bool := minInt bits ≤ n && n ≤ (maxNat bits : Int)

end ChatArchive.Word
