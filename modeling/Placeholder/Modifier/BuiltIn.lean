import Placeholder.Modifier.Basic
import Placeholder.Text.Base64
import Placeholder.Text.Case
import Placeholder.Text.Form
import Placeholder.Text.JsonString

/-!
# The modifiers of the library

Most of them take the text of a value, whatever its type, and give a string.  The one for JSON
strings leaves everything but strings alone, so that a number stays a number.
-/

namespace Placeholder

/-- A modifier of the library. -/
inductive BuiltInModifier (σ : Type) where
  /-- The text of the value. -/
  | asString
  | base64
  | lowercase
  | uppercase
  | urlEncode
  /-- The inside of a JSON string. -/
  | jsonSubString
  /-- Any function that gives a value. -/
  | function (transform : Value → σ → Value × σ) (inputType outputType documentation : String)

variable {σ : Type}

/-- The modifier that changes the text of a value. -/
def Modifier.ofText (documentation : String) (change : List Char → List Char) : Modifier σ where
  outputType := "string"
  documentation
  transform := fun value state => (.ok (.string (String.ofList (change value.text.toList))), state)

/-- The value with a string made fit for the inside of a JSON string: it is written as a JSON
string, and the quotes of that are taken off. -/
def Value.escapeJson : Value → Value
  | .string s => .string (String.ofList (Text.JsonString.unquote (Text.JsonString.literal s.toList)))
  | other => other

namespace BuiltInModifier

/-- The modifier as an engine knows it. -/
def toModifier : BuiltInModifier σ → Modifier σ
  | .asString => Modifier.ofText "Converts the value to string" id
  | .base64 =>
    Modifier.ofText "Encodes the value with standard padded base64 (RFC 4648)" fun cs =>
      Text.Base64.encode (Text.utf8 cs)
  | .lowercase => Modifier.ofText "Converts the value to lowercase string" Text.lower
  | .uppercase => Modifier.ofText "Converts the value to uppercase string" Text.upper
  | .urlEncode =>
    Modifier.ofText "Encodes the value for safe use in URLs using standard URL encoding."
      Text.Form.encode
  | .jsonSubString =>
    { outputType := scalarTypes
      documentation := "Escapes the value for safe inclusion inside a JSON string"
      transform := fun value state => (.ok value.escapeJson, state) }
  | .function transform inputType outputType documentation =>
    { inputType, outputType, documentation
      transform := fun value state =>
        let (value, state) := transform value state
        (.ok value, state) }

/-- The modifier as a record of its settings, if it shows them. -/
def shown? : BuiltInModifier σ → Option String
  | .function _ inputType outputType _ =>
    some (Text.openRecord "FnModifier" [("input_type", Text.quoted inputType),
      ("output_type", Text.quoted outputType)])
  | _ => none

end BuiltInModifier

end Placeholder
