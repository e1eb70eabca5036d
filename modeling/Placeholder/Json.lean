import Placeholder.Binary64.Basic
import Placeholder.Entries

/-!
# JSON values

JSON as data.  Whole numbers and other numbers are told apart; a number that is not whole is a
finite double, since JSON has no other.
-/

namespace Placeholder

/-- A JSON value.  The fields of an object keep their order. -/
inductive Json where
  | null
  | boolean (b : Bool)
  | integer (i : Int)
  | float (x : Binary64.Finite)
  | string (s : String)
  | array (items : List Json)
  | object (fields : List (String × Json))
  deriving Inhabited

namespace Json

/-- The number if it is one that JSON has, else null. -/
def ofBinary64 (x : Binary64) : Json :=
  if h : x.isFinite = true then .float ⟨x, h⟩ else .null

/-- A text, or null if there is none. -/
def ofString? : Option String → Json
  | none => .null
  | some s => .string s

/-- An array of texts. -/
def ofStrings (texts : List String) : Json := .array (texts.map .string)

end Json

end Placeholder
