/-!
# Doubles

A double as data: its sign and its magnitude bits, in which the order of the numbers is the order
of the doubles.  No arithmetic is needed on them beyond their exact value, which is a multiple of
the smallest positive double, so everything here is about natural numbers.
-/

namespace Placeholder

/-- A double: the sign bit and the other sixty-three bits. -/
structure Binary64 where
  negative : Bool
  magnitude : Nat
  lt_two_pow : magnitude < Nat.pow 2 63 := by decide
  deriving DecidableEq

namespace Binary64

/-- The magnitude bits of an infinity. -/
def infiniteMagnitude : Nat := 0x7FF * Nat.pow 2 52

/-- The zero with the given sign. -/
def zero (negative : Bool) : Binary64 := ⟨negative, 0, by decide⟩

/-- The infinity with the given sign. -/
def infinity (negative : Bool) : Binary64 := ⟨negative, infiniteMagnitude, by decide⟩

/-- A double that is not a number. -/
def nan : Binary64 := ⟨false, infiniteMagnitude + Nat.pow 2 51, by decide⟩

def isFinite (x : Binary64) : Bool := x.magnitude < infiniteMagnitude

def isNaN (x : Binary64) : Bool := infiniteMagnitude < x.magnitude

/-- The bits that say in which power of two the number lies. -/
def exponentField (x : Binary64) : Nat := x.magnitude / Nat.pow 2 52

/-- The bits that say where in it. -/
def fractionField (x : Binary64) : Nat := x.magnitude % Nat.pow 2 52

/-- The significand as a whole number. -/
def significand (x : Binary64) : Nat :=
  if x.exponentField = 0 then x.fractionField else Nat.pow 2 52 + x.fractionField

/-- How often the unit of the significand is twice the smallest positive double. -/
def doublings (x : Binary64) : Nat := x.exponentField - 1

/-- The magnitude of a finite double, as a multiple of the smallest positive double `2 ^ -1074`. -/
def scaled (x : Binary64) : Nat := x.significand * Nat.pow 2 x.doublings

/-- Whether two doubles are equal as numbers.  The two zeros are equal, and what is no number is
equal to nothing. -/
def agrees (x y : Binary64) : Bool :=
  !x.isNaN && !y.isNaN && (x = y || (x.magnitude = 0 && y.magnitude = 0))

instance : Inhabited Binary64 := ⟨zero false⟩

/-- A double that stands for a number. -/
abbrev Finite := { x : Binary64 // x.isFinite = true }

end Binary64

end Placeholder
