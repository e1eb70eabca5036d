import Placeholder.Macro.BuiltIn
import Placeholder.Stock.Counters

/-!
# Ready-made producers

Producers for macros that compute their values, and a macro that always fails.
-/

namespace Placeholder

/-- A producer that can be named. -/
inductive StockProducer where
  /-- The parameter, or null. -/
  | parameter
  /-- The name of the macro. -/
  | name
  /-- The token as it is written. -/
  | token
  /-- Name, parameter and token, with colons between them. -/
  | summary
  /-- An object that holds the name, and so no scalar. -/
  | nameObject
  /-- How often it has been called before. -/
  | counter
  | fixed (json : Json)
  /-- The JSON beside the parameter in a table, or null. -/
  | table (rows : List (String × Json))

/-- What the producer gives.  One that counts uses the given counter. -/
def StockProducer.produce (producer : StockProducer) (counter : CounterId) : Producer Counters :=
  fun call counters =>
    match producer with
    | .parameter => (Json.ofString? call.parameter, counters)
    | .name => (.string call.name, counters)
    | .token => (.string call.token, counters)
    | .summary =>
      (.string (call.name ++ ":" ++ call.parameter.getD "-" ++ ":" ++ call.token), counters)
    | .nameObject => (.object [("name", .string call.name)], counters)
    | .counter =>
      let (calls, counters) := counters.advance counter
      (.integer calls, counters)
    | .fixed json => (json, counters)
    | .table rows => ((call.parameter.bind fun p => rows.lookup p).getD .null, counters)

/-- The macro whose value is never a scalar, and which refuses every parameter with the given error
if there is one. -/
def Macro.failing {σ : Type} (found : String) (refusal : Option ValidationError) : Macro σ where
  outputType := "fail"
  takesParameter := true
  check := fun _ =>
    match refusal with
    | some error => .error error
    | none => .ok ()
  resolve := fun _ state => (.error ⟨found⟩, state)

end Placeholder
