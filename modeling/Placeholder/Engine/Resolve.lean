import Placeholder.Engine.Basic
import Placeholder.Node
import Placeholder.Token.Scan

/-!
# Resolving

A token is resolved by its macro and then by its chain, one entry after the other.  A text that is
exactly one token becomes the value itself; in any other text the tokens are replaced by the texts
of their values.  Of a structure only the string leaves change.
-/

namespace Placeholder.Engine

variable {σ : Type}

/-- The name by which warnings call the final modifier. -/
def finalModifierName : String := "final_string_modifier"

/-- The value that the token's macro gives, or null with a warning. -/
def callMacro (engine : Engine σ) (token : Token) : Session σ Value := do
  let (origin, item) := engine.macroFor token.name
  let call : Call := { parameter := token.parameter, name := token.name, token := token.raw }
  match ← Session.call (.resolved origin call) (item.resolve call) with
  | .ok value => return value
  | .error error =>
    Session.warn (.ofMacro token.raw error.found)
    return .null

/-- What a modifier makes of a value, or null with a warning that names the modifier. -/
def callModifier (token : Token) (origin : ModifierOrigin) (name : String) (item : Modifier σ)
    (value : Value) : Session σ Value := do
  match ← Session.call (.transformed origin value) (item.transform value) with
  | .ok value => return value
  | .error error =>
    Session.warn (.ofModifier token.raw name error.found)
    return .null

/-- What an entry of the token's chain makes of a value.  An optional entry leaves null alone, and
an unknown modifier leaves every value alone, with a warning. -/
def applyStep (engine : Engine σ) (token : Token) (value : Value) (step : Step) :
    Session σ Value :=
  if step.optional && value.isNull then return value
  else
    match engine.modifiers.get? step.name with
    | some item => callModifier token (.registered step.name) step.name item value
    | none => do
      Session.warn (.ofUnknownModifier token.raw step.name)
      return value

/-- What the entries of a chain make of a value, one after the other. -/
def applySteps (engine : Engine σ) (token : Token) (value : Value) : List Step → Session σ Value
  | [] => return value
  | step :: rest => do
    let value ← applyStep engine token value step
    applySteps engine token value rest

/-- What the final modifier makes of a value, if there is one and the value is a string. -/
def applyFinal (engine : Engine σ) (token : Token) (value : Value) : Session σ Value :=
  match engine.finalModifier with
  | some item =>
    if value.isString then callModifier token .final finalModifierName item value
    else return value
  | none => return value

/-- The value of a token. -/
def resolveToken (engine : Engine σ) (token : Token) : Session σ Value := do
  let value ← callMacro engine token
  let value ← applySteps engine token value token.steps
  applyFinal engine token value

/-- The text with every token replaced by the text of its value. -/
def fillText (engine : Engine σ) (template : String) : Session σ String :=
  Token.replaceM template fun token => do
    let value ← resolveToken engine token
    return value.text

/-- The value of a template text: the value of its token, if it is exactly one, else a string. -/
def resolveText (engine : Engine σ) (template : String) : Session σ Value :=
  match Token.ofText? template with
  | some token => resolveToken engine token
  | none => do
    let text ← fillText engine template
    return .string text

mutual

/-- The structure with every string leaf resolved, in document order. -/
def resolveNode (engine : Engine σ) : Node → Session σ Node
  | .scalar (.string template) => do
    let value ← resolveText engine template
    return .scalar value
  | .scalar value => return .scalar value
  | .map entries => do
    let entries ← resolveEntries engine entries
    return .map entries
  | .list items => do
    let items ← resolveItems engine items
    return .list items

/-- The entries of a map, one after the other.  Keys are not resolved.  The entries stay in their
list; where no key comes twice, that is the same as collecting them into a new map
(`resolveNode_map_of_distinct`). -/
def resolveEntries (engine : Engine σ) : List (String × Node) → Session σ (List (String × Node))
  | [] => return []
  | (key, child) :: rest => do
    let child ← resolveNode engine child
    let rest ← resolveEntries engine rest
    return (key, child) :: rest

/-- The items of a list, one after the other. -/
def resolveItems (engine : Engine σ) : List Node → Session σ (List Node)
  | [] => return []
  | item :: rest => do
    let item ← resolveNode engine item
    let rest ← resolveItems engine rest
    return item :: rest

end

end Placeholder.Engine
