import Placeholder.Macro.Basic

/-!
# The macros of the library

A fixed value, a value computed for each token, either of the two, and the token itself.
-/

namespace Placeholder

/-- Where a value comes from. -/
inductive Source (σ : Type) where
  | constant (value : Value)
  | computed (producer : Producer σ)

/-- A macro of the library. -/
inductive BuiltInMacro (σ : Type) where
  /-- Always the same value. -/
  | constant (value : Value) (outputType documentation : String)
  /-- A value computed anew for each token, with a rule for the parameter. -/
  | computed (producer : Producer σ) (outputType documentation : String)
    (parameters : ParameterRule)
  /-- A value that is either fixed or computed, without a parameter. -/
  | either (source : Source σ) (outputType documentation : String)
  /-- The token as it is written. -/
  | passthrough

variable {σ : Type}

namespace Source

def resolve : Source σ → Call → σ → Except NotScalar Value × σ
  | .constant value, _, state => (.ok value, state)
  | .computed producer, call, state => producer.resolve call state

/-- The fixed value, or that the value is computed. -/
def shown : Source σ → String
  | .constant value => "Constant(" ++ value.shown ++ ")"
  | .computed _ => "Lazy(..)"

end Source

namespace BuiltInMacro

/-- The macro as an engine knows it. -/
def toMacro : BuiltInMacro σ → Macro σ
  | .constant value outputType documentation =>
    { outputType, documentation
      takesParameter := false
      check := ParameterRule.none.check
      resolve := fun _ state => (.ok value, state) }
  | .computed producer outputType documentation parameters =>
    { outputType, documentation
      takesParameter := parameters.accepts
      allowed? := parameters.allowed?
      check := parameters.check
      resolve := producer.resolve }
  | .either source outputType documentation =>
    { outputType, documentation
      takesParameter := false
      check := ParameterRule.none.check
      resolve := source.resolve }
  | .passthrough =>
    { outputType := "string"
      documentation := "No modification; uses the macro as-is."
      takesParameter := true
      check := fun _ => .ok ()
      resolve := fun call state => (.ok (.string call.token), state) }

/-- Whether the value is computed, of a macro that may do either. -/
def isComputed? : BuiltInMacro σ → Option Bool
  | .either (.computed _) _ _ => some true
  | .either (.constant _) _ _ => some false
  | _ => none

/-- The macro as a record of its settings, if it shows them. -/
def shown? : BuiltInMacro σ → Option String
  | .computed _ outputType documentation parameters =>
    some (Text.openRecord "LazyLoad" [("output_type", Text.quoted outputType),
      ("documentation", Text.quoted documentation), ("parameters", parameters.shown)])
  | .either source outputType documentation =>
    some (Text.closedRecord "ConstantOrLazyLoad" [("source", source.shown),
      ("output_type", Text.quoted outputType), ("documentation", Text.quoted documentation)])
  | _ => none

end BuiltInMacro

/-- The macro that leaves every token as it is written. -/
def Macro.passthrough : Macro σ := BuiltInMacro.passthrough.toMacro

end Placeholder
