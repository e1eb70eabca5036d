import Placeholder.Macro.Parameter
import Placeholder.Session

/-!
# Macros

A macro gives a value for a token and rules on the token's parameter.  It may use and change a
state, which it shares with the other macros and modifiers of an engine.
-/

namespace Placeholder

/-- What an engine knows of a macro. -/
structure Macro (σ : Type) where
  /-- The label of the type of its values. -/
  outputType : String
  documentation : String := ""
  /-- Whether it says that it takes a parameter. -/
  takesParameter : Bool
  /-- The parameters that it says are allowed, if it restricts them to a list. -/
  allowed? : Option (List String) := none
  /-- The verdict on a parameter.  It is a function of the parameter: whatever state there is, the
  same parameter always has the same verdict, and asking for it changes nothing. -/
  check : Option String → Except ValidationError Unit
  /-- The value for a token. -/
  resolve : Call → σ → Except NotScalar Value × σ

/-- A computation of JSON for a token. -/
abbrev Producer (σ : Type) := Call → σ → Json × σ

/-- The producer with its result taken as a value, if it is one. -/
def Producer.resolve {σ : Type} (producer : Producer σ) (call : Call) (state : σ) :
    Except NotScalar Value × σ :=
  let (json, state) := producer call state
  (Value.ofJson? json, state)

end Placeholder
