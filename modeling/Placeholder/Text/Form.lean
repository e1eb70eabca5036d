import Placeholder.Text.Bytes
import Placeholder.Text.Hex

/-!
# Form encoding

The encoding of a text in the query of an address: letters, digits and `-_.` stand for themselves,
a space is a plus sign, and every other byte of the UTF-8 form is a percent sign and two
hexadecimal digits.  A text is encoded in two passes.  The first one writes a space like any other
byte, and the second one looks for what is written of a space in what the first has given.

Main statements: both passes together write one byte after the other (`encode_eq_flatMap`), and an
encoded text stands for the bytes of the text (`decode?_encode`).
-/

namespace Placeholder.Text.Form

/-- Whether a byte stands for itself. -/
def isPlain (b : UInt8) : Bool :=
  let n := b.toNat
  (48 ≤ n && n ≤ 57) || (65 ≤ n && n ≤ 90) || (97 ≤ n && n ≤ 122) || n == 45 || n == 46 || n == 95

/-- A byte as the first pass writes it. -/
def percentByte (b : UInt8) : List Char :=
  if isPlain b then [Char.ofNat b.toNat]
  else ['%', upperHexDigit (b.toNat / 16), upperHexDigit (b.toNat % 16)]

/-- The bytes of a text, each written by itself or with a percent sign. -/
def percentEncode (cs : List Char) : List Char := (utf8 cs).flatMap percentByte

/-- The text with a plus sign for each `%20` in it, found from the left. -/
def plusForSpaces : List Char → List Char
  | '%' :: '2' :: '0' :: rest => '+' :: plusForSpaces rest
  | c :: rest => c :: plusForSpaces rest
  | [] => []

/-- The encoding of a text. -/
def encode (cs : List Char) : List Char := plusForSpaces (percentEncode cs)

/-- A byte as it is written in the end. -/
def encodeByte (b : UInt8) : List Char := if b = 0x20 then ['+'] else percentByte b

/-- The bytes that an encoded text stands for: a plus sign is a space, a percent sign takes the two
digits after it, and any other character stands for its own bytes. -/
def decode? : List Char → Option (List UInt8)
  | [] => some []
  | '%' :: a :: b :: rest =>
    match hexValue? a, hexValue? b with
    | some high, some low => (decode? rest).map (UInt8.ofNat (high * 16 + low) :: ·)
    | _, _ => none
  | c :: rest =>
    if c = '%' then none
    else if c = '+' then (decode? rest).map (0x20 :: ·)
    else (decode? rest).map (String.utf8EncodeChar c ++ ·)

/-- A byte that stands for itself is an ASCII character without a meaning of its own. -/
theorem utf8EncodeChar_of_isPlain {b : UInt8} (h : isPlain b = true) :
    Char.ofNat b.toNat ≠ '%' ∧ Char.ofNat b.toNat ≠ '+' ∧
      String.utf8EncodeChar (Char.ofNat b.toNat) = [b] := by
  have hb : b.toNat < 128 ∧ b.toNat ≠ 37 ∧ b.toNat ≠ 43 := by
    simp [isPlain] at h
    omega
  refine ⟨fun hc => hb.2.1 ?_, fun hc => hb.2.2 ?_, utf8EncodeChar_ofNat hb.1⟩
  · rw [← toNat_ofNat_of_lt hb.1, hc]
    rfl
  · rw [← toNat_ofNat_of_lt hb.1, hc]
    rfl

theorem plusForSpaces_cons {c : Char} (h : c ≠ '%') (rest : List Char) :
    plusForSpaces (c :: rest) = c :: plusForSpaces rest := by
  rw [plusForSpaces]
  exact fun _ hc => absurd hc h

/-- A digit is not a percent sign, so what is looked for does not begin with it. -/
theorem plusForSpaces_upperHexDigit {n : Nat} (h : n < 16) (rest : List Char) :
    plusForSpaces (upperHexDigit n :: rest) = upperHexDigit n :: plusForSpaces rest :=
  plusForSpaces_cons ((by decide : ∀ n, n < 16 → upperHexDigit n ≠ '%') n h) rest

/-- Only a space is written as `%20`. -/
theorem eq_space_of_upperHexDigit {b : UInt8} (hhigh : upperHexDigit (b.toNat / 16) = '2')
    (hlow : upperHexDigit (b.toNat % 16) = '0') : b = 0x20 := by
  have hdigit : ∀ n, n < 16 →
      (upperHexDigit n = '2' → n = 2) ∧ (upperHexDigit n = '0' → n = 0) := by
    decide
  have hlt := b.toNat_lt
  have hhigh := (hdigit _ (by omega)).1 hhigh
  have hlow := (hdigit _ (by omega)).2 hlow
  rw [← UInt8.toNat_inj]
  show b.toNat = 32
  omega

/-- Whatever follows, the second pass changes what is written of a space and of no other byte. -/
theorem plusForSpaces_percentByte_append (b : UInt8) (rest : List Char) :
    plusForSpaces (percentByte b ++ rest) = encodeByte b ++ plusForSpaces rest := by
  unfold encodeByte
  split
  · next hspace =>
    subst hspace
    rfl
  · next hspace =>
    unfold percentByte
    split
    · next hplain =>
      exact plusForSpaces_cons (utf8EncodeChar_of_isPlain hplain).1 rest
    · have hlt := b.toNat_lt
      have hhigh := plusForSpaces_upperHexDigit (n := b.toNat / 16) (by omega)
        (upperHexDigit (b.toNat % 16) :: rest)
      have hlow := plusForSpaces_upperHexDigit (n := b.toNat % 16) (by omega) rest
      rw [hlow] at hhigh
      rw [List.cons_append, List.cons_append, List.singleton_append, plusForSpaces, hhigh]
      · rfl
      · intro after _ hdigits
        obtain ⟨htwo, hzero⟩ := List.cons.inj hdigits
        exact hspace (eq_space_of_upperHexDigit htwo (List.cons.inj hzero).1)

/-- The two passes write one byte after the other. -/
theorem encode_eq_flatMap (cs : List Char) : encode cs = (utf8 cs).flatMap encodeByte := by
  rw [encode, percentEncode]
  induction utf8 cs with
  | nil => rfl
  | cons b bytes ih =>
    rw [List.flatMap_cons, plusForSpaces_percentByte_append, ih, List.flatMap_cons]

theorem decode?_encodeByte_append (b : UInt8) (rest : List Char) :
    decode? (encodeByte b ++ rest) = (decode? rest).map (b :: ·) := by
  unfold encodeByte
  split
  · next h =>
    subst h
    rfl
  · unfold percentByte
    split
    · next h =>
      obtain ⟨hpercent, hplus, hbyte⟩ := utf8EncodeChar_of_isPlain h
      rw [List.singleton_append, decode?, if_neg hpercent, if_neg hplus, hbyte]
      · rfl
      · exact fun _ _ _ h => absurd h hpercent
    · have hlt := b.toNat_lt
      have hhigh : b.toNat / 16 < 16 := by omega
      have hlow : b.toNat % 16 < 16 := by omega
      have hsum : b.toNat / 16 * 16 + b.toNat % 16 = b.toNat := by omega
      simp [decode?, hexValue?_upperHexDigit hhigh, hexValue?_upperHexDigit hlow, hsum]

theorem decode?_flatMap_encodeByte (bytes : List UInt8) :
    decode? (bytes.flatMap encodeByte) = some bytes := by
  induction bytes with
  | nil => rfl
  | cons b bytes ih => rw [List.flatMap_cons, decode?_encodeByte_append, ih, Option.map_some]

theorem decode?_encode (cs : List Char) : decode? (encode cs) = some (utf8 cs) := by
  rw [encode_eq_flatMap, decode?_flatMap_encodeByte]

end Placeholder.Text.Form
