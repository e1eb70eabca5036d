import Placeholder.Documentation.Basic
import Placeholder.Fault
import Placeholder.Shape.Basic

/-!
# Reading documentation from JSON

Each record may be an object, in which unknown fields are ignored, or the array of its fields in
order.  A fault in a field that is there comes before the lack of one that is not.
-/

namespace Placeholder

namespace Json

/-- The fault of JSON that is not what is expected. -/
def mismatch {α : Type} (json : Json) (expected : String) : Except Fault α :=
  .error (.invalidType (.ofUntyped (Untyped.ofJson json)) expected)

def readString : Json → Except Fault String
  | .string s => .ok s
  | json => json.mismatch "a string"

def readBoolean : Json → Except Fault Bool
  | .boolean b => .ok b
  | json => json.mismatch "a boolean"

def readList {α : Type} (read : Json → Except Fault α) : Json → Except Fault (List α)
  | .array items => items.mapM read
  | json => json.mismatch "a sequence"

/-- Null, or what can be read. -/
def readOption {α : Type} (read : Json → Except Fault α) : Json → Except Fault (Option α)
  | .null => .ok none
  | json => (read json).map some

end Json

/-- A field of a record that has been read, or the fault that it is missing. -/
def requireField {α : Type} (name : String) : Option α → Except Fault α
  | some a => .ok a
  | none => .error (.missingField name)

/-- The element of an array at a position, or the fault that the array is too short. -/
def requireElement {α : Type} (title : String) (count position : Nat) (items : List Json)
    (read : Json → Except Fault α) : Except Fault α :=
  match items[position]? with
  | some item => read item
  | none => .error (.invalidLength position (countedTitle title count))

/-- The fault of an array that is longer than the record that it stands for. -/
def refuseLonger (count : Nat) (items : List Json) : Except Fault Unit :=
  if count < items.length then .error (.invalidLength items.length "fewer elements in array")
  else .ok ()

namespace MacroParameter

/-- The fields that have been read so far. -/
structure Draft where
  allow : Option Bool := none
  list : Option (Option (List String)) := none

def Draft.add (draft : Draft) (field : String × Json) : Except Fault Draft :=
  match field.1 with
  | "allow" => field.2.readBoolean.map fun allow => { draft with allow := some allow }
  | "list" =>
    (Json.readOption (Json.readList Json.readString) field.2).map fun list =>
      { draft with list := some list }
  | _ => .ok draft

/-- The parameter facet that a JSON value is.  Without a list there is no restriction. -/
def ofJson : Json → Except Fault MacroParameter
  | .object fields => do
    let draft ← fields.foldlM Draft.add {}
    return { allow := ← requireField "allow" draft.allow, list := draft.list.join }
  | .array items => do
    let element {α : Type} := requireElement (α := α) "struct MacroParam" 2
    let allow ← element 0 items Json.readBoolean
    let list ← element 1 items (Json.readOption (Json.readList Json.readString))
    refuseLonger 2 items
    return { allow, list }
  | json => json.mismatch "struct MacroParam"

end MacroParameter

namespace MacroEntry

/-- The fields that have been read so far. -/
structure Draft where
  name : Option String := none
  outputType : Option String := none
  parameter : Option MacroParameter := none
  details : Option String := none

def Draft.add (draft : Draft) (field : String × Json) : Except Fault Draft :=
  match field.1 with
  | "name" => field.2.readString.map fun name => { draft with name := some name }
  | "type" => field.2.readString.map fun outputType => { draft with outputType := some outputType }
  | "param" =>
    (MacroParameter.ofJson field.2).map fun parameter => { draft with parameter := some parameter }
  | "details" => field.2.readString.map fun details => { draft with details := some details }
  | _ => .ok draft

/-- The entry that a JSON value is. -/
def ofJson : Json → Except Fault MacroEntry
  | .object fields => do
    let draft ← fields.foldlM Draft.add {}
    let name ← requireField "name" draft.name
    let outputType ← requireField "type" draft.outputType
    let parameter ← requireField "param" draft.parameter
    let details ← requireField "details" draft.details
    return { name, outputType, parameter, details }
  | .array items => do
    let element {α : Type} := requireElement (α := α) "struct MacroDoc" 4
    let name ← element 0 items Json.readString
    let outputType ← element 1 items Json.readString
    let parameter ← element 2 items MacroParameter.ofJson
    let details ← element 3 items Json.readString
    refuseLonger 4 items
    return { name, outputType, parameter, details }
  | json => json.mismatch "struct MacroDoc"

end MacroEntry

namespace ModifierEntry

/-- The fields that have been read so far. -/
structure Draft where
  name : Option String := none
  inputType : Option String := none
  outputType : Option String := none
  details : Option String := none

def Draft.add (draft : Draft) (field : String × Json) : Except Fault Draft :=
  match field.1 with
  | "name" => field.2.readString.map fun name => { draft with name := some name }
  | "in_type" => field.2.readString.map fun inputType => { draft with inputType := some inputType }
  | "out_type" =>
    field.2.readString.map fun outputType => { draft with outputType := some outputType }
  | "details" => field.2.readString.map fun details => { draft with details := some details }
  | _ => .ok draft

/-- The entry that a JSON value is. -/
def ofJson : Json → Except Fault ModifierEntry
  | .object fields => do
    let draft ← fields.foldlM Draft.add {}
    let name ← requireField "name" draft.name
    let inputType ← requireField "in_type" draft.inputType
    let outputType ← requireField "out_type" draft.outputType
    let details ← requireField "details" draft.details
    return { name, inputType, outputType, details }
  | .array items => do
    let element {α : Type} := requireElement (α := α) "struct ModifierDoc" 4
    let name ← element 0 items Json.readString
    let inputType ← element 1 items Json.readString
    let outputType ← element 2 items Json.readString
    let details ← element 3 items Json.readString
    refuseLonger 4 items
    return { name, inputType, outputType, details }
  | json => json.mismatch "struct ModifierDoc"

end ModifierEntry

namespace Documentation

/-- The fields that have been read so far. -/
structure Draft where
  macros : Option (List MacroEntry) := none
  modifiers : Option (List ModifierEntry) := none

def Draft.add (draft : Draft) (field : String × Json) : Except Fault Draft :=
  match field.1 with
  | "macros" =>
    (field.2.readList MacroEntry.ofJson).map fun macros => { draft with macros := some macros }
  | "modifiers" =>
    (field.2.readList ModifierEntry.ofJson).map fun modifiers =>
      { draft with modifiers := some modifiers }
  | _ => .ok draft

/-- The documentation that a JSON value is. -/
def ofJson : Json → Except Fault Documentation
  | .object fields => do
    let draft ← fields.foldlM Draft.add {}
    let macros ← requireField "macros" draft.macros
    let modifiers ← requireField "modifiers" draft.modifiers
    return { macros, modifiers }
  | .array items => do
    let element {α : Type} := requireElement (α := α) "struct Documentation" 2
    let macros ← element 0 items (Json.readList MacroEntry.ofJson)
    let modifiers ← element 1 items (Json.readList ModifierEntry.ofJson)
    refuseLonger 2 items
    return { macros, modifiers }
  | json => json.mismatch "struct Documentation"

end Documentation

end Placeholder
