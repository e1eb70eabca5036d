import Placeholder.Json
import Placeholder.Macro.Basic
import Placeholder.Modifier.Basic
import Placeholder.Engine.Registry

/-!
# Documentation

What an engine has registered, as a table: one entry for each macro and each modifier, in the order
of their registration.
-/

namespace Placeholder

/-- What an entry says about the parameter of a macro. -/
structure MacroParameter where
  /-- Whether a parameter may be given. -/
  allow : Bool
  /-- The values that are allowed, if they are restricted. -/
  list : Option (List String)
  deriving DecidableEq

/-- The entry of a macro. -/
structure MacroEntry where
  name : String
  outputType : String
  parameter : MacroParameter
  details : String
  deriving DecidableEq

/-- The entry of a modifier. -/
structure ModifierEntry where
  name : String
  inputType : String
  outputType : String
  details : String
  deriving DecidableEq

/-- All entries. -/
structure Documentation where
  macros : List MacroEntry
  modifiers : List ModifierEntry
  deriving DecidableEq

/-- The entry of a macro that is registered under a name. -/
def MacroEntry.describe {σ : Type} (name : String) (item : Macro σ) : MacroEntry where
  name
  outputType := item.outputType
  parameter := { allow := item.takesParameter, list := item.allowed? }
  details := item.documentation

/-- The entry of a modifier that is registered under a name. -/
def ModifierEntry.describe {σ : Type} (name : String) (item : Modifier σ) : ModifierEntry where
  name
  inputType := item.inputType
  outputType := item.outputType
  details := item.documentation

namespace Documentation

/-- The documentation of two registries. -/
def ofRegistries {σ : Type} (macros : Registry (Macro σ)) (modifiers : Registry (Modifier σ)) :
    Documentation where
  macros := macros.entries.map fun (name, item) => .describe name item
  modifiers := modifiers.entries.map fun (name, item) => .describe name item

/-- The first entry of a macro with the name. -/
def macroEntry? (doc : Documentation) (name : String) : Option MacroEntry :=
  doc.macros.find? (·.name = name)

/-- The first entry of a modifier with the name. -/
def modifierEntry? (doc : Documentation) (name : String) : Option ModifierEntry :=
  doc.modifiers.find? (·.name = name)

end Documentation

/-! ## Writing -/

def MacroParameter.toJson (parameter : MacroParameter) : Json :=
  .object [("allow", .boolean parameter.allow),
    ("list", match parameter.list with
      | none => .null
      | some values => Json.ofStrings values)]

def MacroEntry.toJson (entry : MacroEntry) : Json :=
  .object [("name", .string entry.name), ("type", .string entry.outputType),
    ("param", entry.parameter.toJson), ("details", .string entry.details)]

def ModifierEntry.toJson (entry : ModifierEntry) : Json :=
  .object [("name", .string entry.name), ("in_type", .string entry.inputType),
    ("out_type", .string entry.outputType), ("details", .string entry.details)]

/-- The documentation as JSON: an object with the two lists of entries. -/
def Documentation.toJson (doc : Documentation) : Json :=
  .object [("macros", .array (doc.macros.map MacroEntry.toJson)),
    ("modifiers", .array (doc.modifiers.map ModifierEntry.toJson))]

end Placeholder
