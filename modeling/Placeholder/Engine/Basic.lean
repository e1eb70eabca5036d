import Placeholder.Documentation.Basic
import Placeholder.Macro.BuiltIn

/-!
# Engines

An engine holds the registered macros and modifiers, the macro for names that are not registered,
and possibly a modifier that is applied last to every string.
-/

namespace Placeholder

/-- The two kinds of items that an engine registers. -/
inductive ItemKind where
  | macros
  | modifiers
  deriving DecidableEq

/-- The refusal to register a second item under a name. -/
structure DuplicateName where
  kind : ItemKind
  name : String
  deriving DecidableEq

def DuplicateName.message (error : DuplicateName) : String :=
  match error.kind with
  | .macros => "duplicate macro name: " ++ error.name
  | .modifiers => "duplicate modifier name: " ++ error.name

/-- An engine whose macros and modifiers share a state of type `σ`. -/
structure Engine (σ : Type) where
  macros : Registry (Macro σ) := .empty
  modifiers : Registry (Modifier σ) := .empty
  /-- The macro for names that are not registered. -/
  fallback : Macro σ := .passthrough
  /-- The modifier that is applied last to a string. -/
  finalModifier : Option (Modifier σ) := none

namespace Engine

variable {σ : Type}

/-- The verdict on a macro that is to be registered under a name, and the engine after it. -/
def addMacro (engine : Engine σ) (name : String) (item : Macro σ) :
    Except DuplicateName Unit × Engine σ :=
  let (registered, macros) := engine.macros.register name item
  (if registered then .ok () else .error ⟨.macros, name⟩, { engine with macros })

/-- The verdict on a modifier that is to be registered under a name, and the engine after it. -/
def addModifier (engine : Engine σ) (name : String) (item : Modifier σ) :
    Except DuplicateName Unit × Engine σ :=
  let (registered, modifiers) := engine.modifiers.register name item
  (if registered then .ok () else .error ⟨.modifiers, name⟩, { engine with modifiers })

def macroNames (engine : Engine σ) : List String := engine.macros.names

def modifierNames (engine : Engine σ) : List String := engine.modifiers.names

def hasMacro (engine : Engine σ) (name : String) : Bool := engine.macros.contains name

def hasModifier (engine : Engine σ) (name : String) : Bool := engine.modifiers.contains name

/-- The macro for a name, and whether it is registered. -/
def macroFor (engine : Engine σ) (name : String) : MacroOrigin × Macro σ :=
  match engine.macros.get? name with
  | some item => (.registered, item)
  | none => (.fallback, engine.fallback)

/-- The documentation of everything that is registered. -/
def documentation (engine : Engine σ) : Documentation :=
  .ofRegistries engine.macros engine.modifiers

/-- The engine as a record of its settings. -/
def shown (engine : Engine σ) : String :=
  Text.openRecord "TemplaEngine" [("macros", Text.quotedList engine.macroNames),
    ("modifiers", Text.quotedList engine.modifierNames),
    ("not_found_macro", Text.quoted engine.fallback.outputType),
    ("final_string_modifier", toString engine.finalModifier.isSome)]

end Engine

end Placeholder
