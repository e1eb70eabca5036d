import Placeholder.Binary64.Shortest

/-!
# Doubles as text

The written forms of a double, all with its shortest digits, and the reading of a decimal.

* `text` is positional whatever the size of the number, without a point if the number is whole.
* `pointedText` differs from `text` on whole numbers: it ends in `.0`.
* `compactText` differs from `pointedText` on numbers that are very large or very small, where it
  has an exponent, and on a double halfway between two shortest decimals, where its last digit is
  even.
-/

namespace Placeholder.Binary64

/-- The decimal in positional form. -/
def Decimal.positional (d : Decimal) : String :=
  let digits := Nat.toDigits 10 d.digits
  if 0 ≤ d.exponent then
    String.ofList (digits ++ List.replicate d.exponent.toNat '0')
  else
    let places := (-d.exponent).toNat
    if places < digits.length then
      String.ofList (digits.take (digits.length - places) ++ '.' ::
        digits.drop (digits.length - places))
    else
      String.ofList ('0' :: '.' :: List.replicate (places - digits.length) '0' ++ digits)

/-- The decimal with one digit before the point and an exponent, which has a sign. -/
def Decimal.scientific (d : Decimal) : String :=
  let digits := Nat.toDigits 10 d.digits
  let fraction := if digits.length = 1 then [] else '.' :: digits.drop 1
  let exponent := d.exponent + (digits.length - 1 : Nat)
  String.ofList (digits.take 1 ++ fraction)
    ++ (if 0 ≤ exponent then "e+" else "e") ++ toString exponent

/-- A number with the form of its magnitude and the rule for ties given, and the texts of what is
not a number. -/
def textWith (x : Binary64) (t : Tie) (magnitude : Decimal → String) : String :=
  if x.isNaN then "NaN"
  else (if x.negative then "-" else "") ++ if x.isFinite then magnitude (x.shortest t) else "inf"

/-- The positional form. -/
def text (x : Binary64) : String := x.textWith .up Decimal.positional

/-- The positional form with a point. -/
def Decimal.pointed (d : Decimal) : String :=
  if 0 ≤ d.exponent then d.positional ++ ".0" else d.positional

/-- The positional form, in which a whole number ends in `.0`. -/
def pointedText (x : Binary64) : String := x.textWith .up Decimal.pointed

/-- The positional form with a point from `0.00001` up to sixteen digits, and an exponent beyond. -/
def Decimal.compact (d : Decimal) : String :=
  let place := (Nat.toDigits 10 d.digits).length + d.exponent
  if d.digits = 0 ∨ (-5 < place ∧ place ≤ 16) then d.pointed else d.scientific

/-- The positional form with a point, or the form with an exponent if the number is very large or
very small. -/
def compactText (x : Binary64) : String := x.textWith .even Decimal.compact

/-! ## Reading -/

/-- The number that decimal digits stand for. -/
def digitsValue (cs : List Char) : Nat := cs.foldl (fun n c => n * 10 + (c.toNat - 48)) 0

/-- An exponent: digits after an optional sign. -/
def exponent? (cs : List Char) : Option Int :=
  let (negative, digits) :=
    match cs with
    | '-' :: rest => (true, rest)
    | '+' :: rest => (false, rest)
    | rest => (false, rest)
  if digits.isEmpty || !digits.all Char.isDigit then none
  else some (if negative then -(digitsValue digits : Int) else digitsValue digits)

/-- A decimal without a sign: digits, of which some may follow a point, and an optional exponent. -/
def decimal? (negative : Bool) (cs : List Char) : Option Binary64 := do
  let whole := cs.takeWhile Char.isDigit
  let rest := cs.dropWhile Char.isDigit
  let (fraction, rest) :=
    match rest with
    | '.' :: rest => (rest.takeWhile Char.isDigit, rest.dropWhile Char.isDigit)
    | rest => ([], rest)
  guard (!(whole.isEmpty && fraction.isEmpty))
  let exponent ←
    match rest with
    | [] => some 0
    | 'e' :: rest => exponent? rest
    | _ => none
  return ofDecimal negative (digitsValue (whole ++ fraction)) (exponent - fraction.length)

/-- The double nearest to a written number.  Capitals and small letters are the same. -/
def ofText? (s : String) : Option Binary64 :=
  let (negative, rest) :=
    match s.toList.map Char.toLower with
    | '-' :: rest => (true, rest)
    | '+' :: rest => (false, rest)
    | rest => (false, rest)
  match String.ofList rest with
  | "nan" => some nan
  | "inf" | "infinity" => some (infinity negative)
  | _ => decimal? negative rest

end Placeholder.Binary64
