import Placeholder.Path
import Placeholder.Text.Quoted

/-!
# Why data has not the expected form

The causes for which reading typed data fails, and their wording.  The wording depends on where the
data comes from in two details: what null is called, and how a double is written.
-/

namespace Placeholder

/-- What was found instead of what was expected. -/
inductive Found where
  | null
  | boolean (b : Bool)
  | integer (i : Int)
  | float (x : Binary64)
  | string (s : String)
  | sequence
  | map
  | unitVariant
  deriving DecidableEq

/-- Why data cannot be read as what is expected. -/
inductive Fault where
  | invalidType (found : Found) (expected : String)
  | invalidValue (found : Found) (expected : String)
  | invalidLength (length : Nat) (expected : String)
  | missingField (name : String)
  | unknownField (name : String) (known : List String)
  | unknownVariant (name : String) (known : List String)
  /-- None of the kinds of a type that is not labelled accepts the data. -/
  | noAlternative (type : String)
  /-- Data of this kind cannot name a variant. -/
  | noVariant (found : String)
  /-- A variant without data has been given some. -/
  | unitVariantData (variant : String) (found : String)
  | valueBeforeKey
  | custom (message : String)
  deriving DecidableEq

/-- The details of wording that depend on the source of the data. -/
structure Wording where
  null : String
  float : Binary64 → String

/-- For data that is a structure, null is a unit and doubles are positional. -/
def Wording.structure : Wording := ⟨"unit value", Binary64.pointedText⟩

/-- For data that is JSON, null has its name and a double may have an exponent. -/
def Wording.json : Wording := ⟨"null", Binary64.compactText⟩

namespace Found

def ofUntyped : Untyped → Found
  | .null => .null
  | .boolean b => .boolean b
  | .integer i => .integer i
  | .float x => .float x
  | .string s => .string s
  | .list _ => .sequence
  | .map _ => .map

def ofValue (v : Value) : Found := ofUntyped (Untyped.ofValue v)

def text (wording : Wording) : Found → String
  | .null => wording.null
  | .boolean b => "boolean `" ++ toString b ++ "`"
  | .integer i => "integer `" ++ toString i ++ "`"
  | .float x => "floating point `" ++ wording.float x ++ "`"
  | .string s => "string " ++ Text.quoted s
  | .sequence => "sequence"
  | .map => "map"
  | .unitVariant => "unit variant"

end Found

/-- The names that could have been used, or that there are none. -/
def knownNames (plural : String) (known : List String) : String :=
  match known.map fun name => "`" ++ name ++ "`" with
  | [] => "there are no " ++ plural
  | [name] => "expected " ++ name
  | [first, second] => "expected " ++ first ++ " or " ++ second
  | names => "expected one of " ++ ", ".intercalate names

def Fault.message (wording : Wording) : Fault → String
  | .invalidType found expected =>
    "invalid type: " ++ found.text wording ++ ", expected " ++ expected
  | .invalidValue found expected =>
    "invalid value: " ++ found.text wording ++ ", expected " ++ expected
  | .invalidLength length expected =>
    "invalid length " ++ toString length ++ ", expected " ++ expected
  | .missingField name => "missing field `" ++ name ++ "`"
  | .unknownField name known => "unknown field `" ++ name ++ "`, " ++ knownNames "fields" known
  | .unknownVariant name known =>
    "unknown variant `" ++ name ++ "`, " ++ knownNames "variants" known
  | .noAlternative type => "data did not match any variant of untagged enum " ++ type
  | .noVariant found => "expected enum (string or single-key map), found " ++ found
  | .unitVariantData variant found => "expected unit variant `" ++ variant ++ "`, found " ++ found
  | .valueBeforeKey => "value requested before key"
  | .custom message => message

/-! ## Paths from JSON -/

/-- The path that the data is: a list of keys and positions. -/
def Path.ofUntyped : Untyped → Except Fault Path
  | .list items =>
    items.mapM fun item =>
      match Segment.ofUntyped? item with
      | some segment => .ok segment
      | none => .error (.noAlternative "PathSegment")
  | data => .error (.invalidType (.ofUntyped data) "a sequence")

/-- The path that a JSON value is. -/
def Path.ofJson (json : Json) : Except Fault Path := Path.ofUntyped (Untyped.ofJson json)

/-- The value that a JSON value is, each kind of value tried in turn. -/
def Value.decode (json : Json) : Except Fault Value :=
  match (Untyped.ofJson json).value? with
  | some v => .ok v
  | none => .error (.noAlternative "Value")

/-- The structure that a JSON value is, each kind of structure tried in turn. -/
def Node.decode (json : Json) : Except Fault Node :=
  match (Untyped.ofJson json).node? with
  | some node => .ok node
  | none => .error (.noAlternative "Node")

end Placeholder
