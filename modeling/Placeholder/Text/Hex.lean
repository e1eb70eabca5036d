/-!
# Hexadecimal digits

One digit at a time, in both cases, and the reading that undoes both.
-/

namespace Placeholder.Text

/-- The digit for a number below sixteen, in lowercase. -/
def hexDigit (n : Nat) : Char := Nat.digitChar n

/-- The digit for a number below sixteen, in uppercase. -/
def upperHexDigit (n : Nat) : Char :=
  if n < 10 then Char.ofNat (48 + n) else Char.ofNat (55 + n)

/-- The number that a digit of either case stands for. -/
def hexValue? (c : Char) : Option Nat :=
  let n := c.toNat
  if 48 ≤ n ∧ n ≤ 57 then some (n - 48)
  else if 65 ≤ n ∧ n ≤ 70 then some (n - 55)
  else if 97 ≤ n ∧ n ≤ 102 then some (n - 87)
  else none

theorem hexValue?_hexDigit {n : Nat} (h : n < 16) : hexValue? (hexDigit n) = some n :=
  (by decide : ∀ n, n < 16 → hexValue? (hexDigit n) = some n) n h

theorem hexValue?_upperHexDigit {n : Nat} (h : n < 16) : hexValue? (upperHexDigit n) = some n :=
  (by decide : ∀ n, n < 16 → hexValue? (upperHexDigit n) = some n) n h

end Placeholder.Text
