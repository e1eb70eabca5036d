import Placeholder.Binary64.Basic

/-!
# The nearest double

Rounding an exact quotient to the nearest double, a tie going to the even neighbour, and from it
the double for a whole number and for a decimal.
-/

namespace Placeholder.Binary64

/-- The quotient rounded to the nearest whole number, a half to the even one. -/
def roundDiv (num den : Nat) : Nat :=
  let q := num / den
  let r := num % den
  if 2 * r < den ∨ (2 * r = den ∧ q % 2 = 0) then q else q + 1

/-- The magnitude bits of the double nearest to `num / den`.  The quotient is counted in multiples
of `2 ^ -1074` and its last `doublings` bits are rounded away, so that fifty-three are left. -/
def nearestMagnitude (num den : Nat) : Nat :=
  let scaled := num * Nat.pow 2 1074
  let doublings := (scaled / den).log2 - 52
  min infiniteMagnitude (doublings * Nat.pow 2 52 + roundDiv scaled (den * Nat.pow 2 doublings))

theorem nearestMagnitude_le (num den : Nat) : nearestMagnitude num den ≤ infiniteMagnitude :=
  Nat.min_le_left ..

/-- The double nearest to the quotient, with the given sign. -/
def ofRatio (negative : Bool) (num den : Nat) : Binary64 :=
  ⟨negative, nearestMagnitude num den,
    Nat.lt_of_le_of_lt (nearestMagnitude_le num den) (by decide)⟩

/-- The double nearest to a whole number. -/
def ofInt (i : Int) : Binary64 := ofRatio (decide (i < 0)) i.natAbs 1

/-- How many decimal digits a number has; zero has none. -/
def decimalLength (n : Nat) : Nat :=
  if n = 0 then 0 else (Nat.toDigits 10 n).length

/-- The double nearest to `digits * 10 ^ exponent`.  Beyond the two bounds on the place of the first
digit the answer is an infinity or zero, and no power of ten is computed. -/
def ofDecimal (negative : Bool) (digits : Nat) (exponent : Int) : Binary64 :=
  let place := (decimalLength digits : Int) + exponent
  if digits = 0 ∨ place < -330 then zero negative
  else if 310 < place then infinity negative
  else if 0 ≤ exponent then ofRatio negative (digits * Nat.pow 10 exponent.toNat) 1
  else ofRatio negative digits (Nat.pow 10 (-exponent).toNat)

end Placeholder.Binary64
