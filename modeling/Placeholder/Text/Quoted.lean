import Placeholder.Text.Extending
import Placeholder.Text.Unprintable

/-!
# Quoted text

A text between quotes in which every character can be seen: quotes, backslashes and the common
controls have a short escape, and a character without a visible form of its own is written as its
code point.
-/

namespace Placeholder.Text

/-- A character inside quotes.  One that extends the character before it is escaped as well, since
it would merge with the quote or the escape in front of it. -/
def quotedChar (c : Char) : List Char :=
  match c with
  | '"' => ['\\', '"']
  | '\\' => ['\\', '\\']
  | '\n' => ['\\', 'n']
  | '\t' => ['\\', 't']
  | '\r' => ['\\', 'r']
  | '\x00' => ['\\', '0']
  | c =>
    if extending.contains c || unprintable.contains c then
      ['\\', 'u', '{'] ++ Nat.toDigits 16 c.toNat ++ ['}']
    else
      [c]

/-- The text in quotes. -/
def quoted (s : String) : String :=
  String.ofList (['"'] ++ s.toList.flatMap quotedChar ++ ['"'])

/-- The texts in quotes, between brackets and separated by commas. -/
def quotedList (texts : List String) : String :=
  "[" ++ ", ".intercalate (texts.map quoted) ++ "]"

/-- A record that shows some of its fields and says that it has more. -/
def openRecord (name : String) (fields : List (String × String)) : String :=
  name ++ " \x7b " ++ String.join (fields.map fun (field, shown) => field ++ ": " ++ shown ++ ", ")
    ++ ".. \x7d"

/-- A record that shows all of its fields. -/
def closedRecord (name : String) (fields : List (String × String)) : String :=
  name ++ " \x7b " ++ ", ".intercalate (fields.map fun (field, shown) => field ++ ": " ++ shown)
    ++ " \x7d"

end Placeholder.Text
