import Placeholder.Binary64.Text
import Placeholder.Json
import Placeholder.Text.Quoted

/-!
# Scalar values

What flows through a placeholder: every macro gives a value and every modifier takes one and gives
one.  There are five kinds, and the lists and objects of JSON are not among them.
-/

namespace Placeholder

/-- A scalar. -/
inductive Value where
  | string (s : String)
  | integer (i : Int64)
  | float (x : Binary64)
  | boolean (b : Bool)
  | null
  deriving DecidableEq, Inhabited

/-- The refusal of something that is not a scalar, with the name of its type. -/
structure NotScalar where
  found : String
  deriving DecidableEq

/-- The label of a type that has every scalar. -/
def scalarTypes : String := "string|int|float|bool|null"

def NotScalar.message (error : NotScalar) : String :=
  "value of type " ++ error.found ++ " is not " ++ scalarTypes

namespace Value

/-- The label of the value's type. -/
def typeName : Value → String
  | .string _ => "string"
  | .integer _ => "int"
  | .float _ => "float"
  | .boolean _ => "bool"
  | .null => "null"

def isString : Value → Bool
  | .string _ => true
  | _ => false

def isNull : Value → Bool
  | .null => true
  | _ => false

def string? : Value → Option String
  | .string s => some s
  | _ => none

def integer? : Value → Option Int64
  | .integer i => some i
  | _ => none

def float? : Value → Option Binary64
  | .float x => some x
  | _ => none

def boolean? : Value → Option Bool
  | .boolean b => some b
  | _ => none

/-- Whether two scalars are equal as data.  A double that is no number is equal to nothing, and the
two zeros are equal. -/
def agrees : Value → Value → Bool
  | .float x, .float y => x.agrees y
  | v, w => v = w

/-- The text that stands for the value inside other text: true is `1`, and false and null are
empty. -/
def text : Value → String
  | .string s => s
  | .integer i => toString i.toInt
  | .float x => x.text
  | .boolean true => "1"
  | .boolean false => ""
  | .null => ""

/-- The value, or null if there is none. -/
def ofOption : Option Value → Value
  | some v => v
  | none => .null

/-- Whether a whole number is a value as it is. -/
def fitsInteger (i : Int) : Bool := Int64.minValue.toInt ≤ i && i ≤ Int64.maxValue.toInt

/-- The value for a whole number; one that is too large for an integer becomes the nearest
double. -/
def ofInt (i : Int) : Value :=
  if fitsInteger i then .integer (Int64.ofInt i) else .float (Binary64.ofInt i)

/-- The value that a JSON value is, which must not be an array or an object.  No number is refused: a
number of JSON is a whole number, which fits into an integer or has a nearest double, or it is a
double. -/
def ofJson? : Json → Except NotScalar Value
  | .null => .ok .null
  | .boolean b => .ok (.boolean b)
  | .integer i => .ok (ofInt i)
  | .float x => .ok (.float x)
  | .string s => .ok (.string s)
  | .array _ => .error ⟨"array"⟩
  | .object _ => .error ⟨"object"⟩

/-- The value as JSON.  A double that is no number becomes null. -/
def toJson : Value → Json
  | .string s => .string s
  | .integer i => .integer i.toInt
  | .float x => Json.ofBinary64 x
  | .boolean b => .boolean b
  | .null => .null

/-- The kind of the value with the value itself, a text in quotes. -/
def shown : Value → String
  | .string s => "String(" ++ Text.quoted s ++ ")"
  | .integer i => "Integer(" ++ toString i.toInt ++ ")"
  | .float x => "Float(" ++ x.pointedText ++ ")"
  | .boolean b => "Boolean(" ++ toString b ++ ")"
  | .null => "Null"

end Value

end Placeholder
