import Placeholder.Modifier.BuiltIn
import Placeholder.Stock.Counters

/-!
# Ready-made functions

Functions for modifiers that are given by one, and a modifier that always fails.
-/

namespace Placeholder

/-- A function on values that can be named. -/
inductive StockFunction where
  | identity
  | null
  /-- The text of the value from its end to its start. -/
  | reverse
  | typeName
  /-- The text of the value in brackets. -/
  | bracket
  /-- How many characters the text of the value has. -/
  | length
  /-- The text of the value, and how often the function has been called before. -/
  | count
  | constant (value : Value)

/-- What the function gives.  One that counts uses the given counter. -/
def StockFunction.apply (function : StockFunction) (counter : CounterId) (value : Value)
    (counters : Counters) : Value × Counters :=
  match function with
  | .identity => (value, counters)
  | .null => (.null, counters)
  | .reverse => (.string (String.ofList value.text.toList.reverse), counters)
  | .typeName => (.string value.typeName, counters)
  | .bracket => (.string ("[" ++ value.text ++ "]"), counters)
  | .length => (Value.ofInt value.text.length, counters)
  | .count =>
    let (calls, counters) := counters.advance counter
    (.string (value.text ++ "#" ++ toString calls), counters)
  | .constant value => (value, counters)

/-- The modifier whose result is never a scalar. -/
def Modifier.rejecting {σ : Type} (found : String) : Modifier σ where
  outputType := "reject"
  transform := fun _ state => (.error ⟨found⟩, state)

end Placeholder
