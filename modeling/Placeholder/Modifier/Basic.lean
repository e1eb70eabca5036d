import Placeholder.Session

/-!
# Modifiers

A modifier makes one value of another.  It may use and change a state, which it shares with the
other modifiers and the macros of an engine.
-/

namespace Placeholder

/-- What an engine knows of a modifier. -/
structure Modifier (σ : Type) where
  /-- The label of the type of values that it is meant for. -/
  inputType : String := scalarTypes
  /-- The label of the type of its results. -/
  outputType : String
  documentation : String := ""
  transform : Value → σ → Except NotScalar Value × σ

end Placeholder
