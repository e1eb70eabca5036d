import Placeholder.Text.Hex

/-!
# JSON strings

Writing a text so that it can stand between the quotes of a JSON string, and reading such a text
back.  Only what JSON forbids is escaped: quotes, backslashes and the controls below the space.

Main statements: what is written reads back as the text (`unescape?_escape`), and a JSON string
without its quotes is the text as it was written between them (`unquote_literal`), also where that
begins or ends with a quote of its own.
-/

namespace Placeholder.Text.JsonString

/-- A character as it stands inside a JSON string. -/
def escapeChar (c : Char) : List Char :=
  match c with
  | '"' => ['\\', '"']
  | '\\' => ['\\', '\\']
  | '\x08' => ['\\', 'b']
  | '\x0c' => ['\\', 'f']
  | '\n' => ['\\', 'n']
  | '\r' => ['\\', 'r']
  | '\t' => ['\\', 't']
  | c =>
    if c.toNat < 0x20 then
      ['\\', 'u', '0', '0', hexDigit (c.toNat / 16), hexDigit (c.toNat % 16)]
    else
      [c]

/-- The text as it stands inside a JSON string. -/
def escape (cs : List Char) : List Char := cs.flatMap escapeChar

/-- The text between two quotes. -/
def quote (inside : List Char) : List Char := '"' :: inside ++ ['"']

/-- The text as a JSON string, with its quotes. -/
def literal (cs : List Char) : List Char := quote (escape cs)

/-- The text without one quote at its front and one at its back, or the text as it is if there is
not one at each. -/
def unquote (cs : List Char) : List Char :=
  ((['"'].isPrefixOf? cs).bind fun rest => ['"'].isSuffixOf? rest).getD cs

/-- The number that four hexadecimal digits stand for. -/
def unit? (a b c d : Char) : Option Nat := do
  let a ← hexValue? a
  let b ← hexValue? b
  let c ← hexValue? c
  let d ← hexValue? d
  return ((a * 16 + b) * 16 + c) * 16 + d

/-- The character after a backslash that stands for one character by itself. -/
def shortEscape? : Char → Option Char
  | '"' => some '"'
  | '\\' => some '\\'
  | '/' => some '/'
  | 'b' => some '\x08'
  | 'f' => some '\x0c'
  | 'n' => some '\n'
  | 'r' => some '\r'
  | 't' => some '\t'
  | _ => none

/-- The character that two halves of a surrogate pair stand for. -/
def pairedChar (high low : Nat) : Char :=
  Char.ofNat (0x10000 + (high - 0xD800) * 0x400 + (low - 0xDC00))

/-- The text that the inside of a JSON string stands for.  A bare quote, a bare control, a
backslash that starts no escape and half of a surrogate pair are refused. -/
def unescape? : List Char → Option (List Char)
  | [] => some []
  | '\\' :: 'u' :: a :: b :: c :: d :: rest =>
    match unit? a b c d with
    | none => none
    | some high =>
      if high < 0xD800 ∨ 0xE000 ≤ high then (unescape? rest).map (Char.ofNat high :: ·)
      else if 0xDC00 ≤ high then none
      else
        match rest with
        | '\\' :: 'u' :: e :: f :: g :: h :: rest =>
          match unit? e f g h with
          | none => none
          | some low =>
            if 0xDC00 ≤ low ∧ low < 0xE000 then (unescape? rest).map (pairedChar high low :: ·)
            else none
        | _ => none
  | '\\' :: e :: rest =>
    match shortEscape? e with
    | some c => (unescape? rest).map (c :: ·)
    | none => none
  | c :: rest =>
    if c = '"' ∨ c = '\\' ∨ c.toNat < 0x20 then none else (unescape? rest).map (c :: ·)

theorem unquote_quote (inside : List Char) : unquote (quote inside) = inside := by
  have hfront : ['"'].isPrefixOf? (quote inside) = some (inside ++ ['"']) := rfl
  have hback : ['"'].isSuffixOf? (inside ++ ['"']) = some inside := by
    change (['"'].isPrefixOf? (inside ++ ['"']).reverse).map List.reverse = some inside
    rw [List.reverse_append]
    exact congrArg some (List.reverse_reverse inside)
  rw [unquote, hfront, Option.bind_some, hback, Option.getD_some]

/-- Only the quotes around a JSON string are taken off, not those of the text. -/
theorem unquote_literal (cs : List Char) : unquote (literal cs) = escape cs :=
  unquote_quote (escape cs)

example : unquote (literal "say \"hi\"".toList) = "say \\\"hi\\\"".toList := by decide

theorem unit?_control {n : Nat} (h : n < 0x20) :
    unit? '0' '0' (hexDigit (n / 16)) (hexDigit (n % 16)) = some n :=
  (by decide : ∀ n, n < 0x20 → unit? '0' '0' (hexDigit (n / 16)) (hexDigit (n % 16)) = some n) n h

theorem unescape?_escapeChar_append (c : Char) (rest : List Char) :
    unescape? (escapeChar c ++ rest) = (unescape? rest).map (c :: ·) := by
  unfold escapeChar
  split
  · rfl
  · rfl
  · rfl
  · rfl
  · rfl
  · rfl
  · rfl
  · next hquote hslash _ _ _ _ _ =>
    split
    · next hlow =>
      have hlow' : c.toNat < 0xD800 := Nat.lt_trans hlow (by decide)
      simp [unescape?, unit?_control hlow, hlow', Char.ofNat_toNat]
    · next hhigh =>
      have hplain : ¬(c = '"' ∨ c = '\\' ∨ c.toNat < 0x20) := by
        rintro (h | h | h)
        · exact hquote h
        · exact hslash h
        · exact hhigh h
      rw [List.singleton_append, unescape?, if_neg hplain]
      · exact fun _ _ _ _ _ h => absurd h hslash
      · exact fun _ _ h => absurd h hslash

theorem unescape?_escape (cs : List Char) : unescape? (escape cs) = some cs := by
  induction cs with
  | nil => rfl
  | cons c cs ih =>
    have happend : escape (c :: cs) = escapeChar c ++ escape cs := List.flatMap_cons
    rw [happend, unescape?_escapeChar_append, ih, Option.map_some]

end Placeholder.Text.JsonString
