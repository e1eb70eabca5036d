import Placeholder.Binary64.Rounding

/-!
# The shortest decimal of a double

The decimals that read back as a double form an interval around it.  Among them the one with the
fewest digits is taken, and of two such the nearer; where both are equally near, a rule for ties
decides.  To find it, the two neighbours of the double are tried on the grid of one digit, of two
digits, and so on; seventeen digits are always enough.
-/

namespace Placeholder.Binary64

/-- The decimal `digits * 10 ^ exponent`. -/
structure Decimal where
  digits : Nat
  exponent : Int
  deriving DecidableEq

/-- Which of two neighbouring decimals is taken where a double lies halfway between them. -/
inductive Tie where
  /-- The upper one. -/
  | up
  /-- The one whose last digit is even. -/
  | even
  deriving DecidableEq

/-- Whether the tie goes to the lower of the decimals with digits `lower` and `lower + 1`. -/
def Tie.takesLower (t : Tie) (lower : Nat) : Bool :=
  match t with
  | .up => false
  | .even => decide (lower % 2 = 0)

/-- Whether `lower` is taken rather than `lower + 1` for a point that lies `rest` above `lower`,
where the two are `step` apart: the nearer one is, and the rule decides at half a step. -/
def Tie.prefersLower (t : Tie) (lower rest step : Nat) : Bool :=
  decide (2 * rest < step) || decide (2 * rest = step) && t.takesLower lower

/-- The numbers that read back as a positive double, in multiples of `2 ^ -1076`: the double itself
and the distances to the two ends of the interval, which belong to it if `closed`. -/
structure Interval where
  center : Nat
  below : Nat
  above : Nat
  closed : Bool

/-- The interval of a finite double.  It reaches halfway to the neighbours, and the lower one is
nearer where the power of two changes. -/
def interval (x : Binary64) : Interval where
  center := 4 * x.scaled
  below :=
    if x.fractionField = 0 ∧ 1 < x.exponentField then Nat.pow 2 x.doublings
    else 2 * Nat.pow 2 x.doublings
  above := 2 * Nat.pow 2 x.doublings
  closed := x.significand % 2 = 0

/-- Whether the fraction `num / den`, in multiples of `2 ^ -1076`, lies in the interval. -/
def Interval.contains (i : Interval) (num den : Nat) : Bool :=
  if i.closed then
    decide ((i.center - i.below) * den ≤ num) && decide (num ≤ (i.center + i.above) * den)
  else
    decide ((i.center - i.below) * den < num) && decide (num < (i.center + i.above) * den)

/-- How many decimal places to the left of the point a positive number has, counted negatively if
its first digit other than zero is to the right of the point. -/
def pointPlace (center : Nat) : Int :=
  let one := Nat.pow 2 1076
  if one ≤ center then decimalLength (center / one)
  else 1 - (decimalLength ((one + center - 1) / center - 1) : Int)

/-- The decimal nearest to the center among those of `length` digits in the interval. -/
def Interval.decimal? (i : Interval) (t : Tie) (place : Int) (length : Nat) : Option Decimal :=
  let exponent := place - length
  -- the grid has the points `d * step / den`
  let step := Nat.pow 2 1076 * Nat.pow 10 exponent.toNat
  let den := Nat.pow 10 (-exponent).toNat
  let lower := i.center * den / step
  let upper : Decimal :=
    if lower + 1 = Nat.pow 10 length then ⟨1, place⟩ else ⟨lower + 1, exponent⟩
  let lowerFits := i.contains (lower * step) den
  let upperFits := i.contains ((lower + 1) * step) den
  if lowerFits && (!upperFits || t.prefersLower lower (i.center * den % step) step) then
    some ⟨lower, exponent⟩
  else if upperFits then some upper
  else none

/-- The shortest decimal that reads back as the finite double, without its sign. -/
def shortest (x : Binary64) (t : Tie) : Decimal :=
  if x.scaled = 0 then ⟨0, 0⟩
  else
    let i := x.interval
    let place := pointPlace i.center
    ((List.range 17).findSome? fun n => i.decimal? t place (n + 1)).getD ⟨0, 0⟩

end Placeholder.Binary64
