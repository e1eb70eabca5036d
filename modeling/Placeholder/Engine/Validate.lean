import Placeholder.Engine.Basic
import Placeholder.Node
import Placeholder.Token.Scan
import Placeholder.Validation

/-!
# Validating

The macro of every token is asked about the token's parameter.  Each refusal becomes an error whose
path leads from the root to the text and ends in the name of the macro.  The names that are
required are looked at only if there is no such error, and only the first that is missing is
reported.
-/

namespace Placeholder.Engine

variable {σ : Type}

/-- What a walk over a template finds: the errors, and the name of each token, both in document
order. -/
structure Findings where
  errors : List ValidationError := []
  names : List String := []

namespace Findings

/-- One after the other. -/
def append (first second : Findings) : Findings where
  errors := first.errors ++ second.errors
  names := first.names ++ second.names

/-- Findings in a child, seen from its parent. -/
def inside (findings : Findings) (segment : Segment) : Findings :=
  { findings with errors := findings.errors.map (·.prepend segment) }

/-- The verdict on a template with these findings, in which some names are required. -/
def verdict (findings : Findings) (required : List String) : Except Errors Approval :=
  match Errors.ofList? findings.errors with
  | some errors => .error errors
  | none =>
    let valid := Approval.ofNames findings.names
    match required.find? fun name => !valid.uses name with
    | some name => .error (.ofMessage ("required macro: " ++ name ++ " not found"))
    | none => .ok valid

end Findings

/-- The verdict of the macro for a name on a parameter. -/
def askMacro (engine : Engine σ) (name : String) (parameter : Option String) :
    Session σ (Except ValidationError Unit) :=
  let (origin, item) := engine.macroFor name
  Session.call (.checked origin name parameter) fun state => (item.check parameter, state)

/-- The macro that is asked is the one that the event tells of, about the same parameter. -/
theorem run_askMacro (engine : Engine σ) (name : String) (parameter : Option String) (state : σ) :
    (askMacro engine name parameter).run state =
      { result := (engine.macroFor name).2.check parameter
        state
        events := [.checked (engine.macroFor name).1 name parameter] } := rfl

/-- A token: its macro is asked about its parameter. -/
def checkToken (engine : Engine σ) (token : Token) : Session σ Findings := do
  match ← askMacro engine token.name token.parameter with
  | .ok () => return { names := [token.name] }
  | .error error =>
    return { errors := [{ error with path := [.key token.name] }], names := [token.name] }

/-- Tokens, one after the other. -/
def checkTokens (engine : Engine σ) : List Token → Session σ Findings
  | [] => return {}
  | token :: rest => do
    let first ← checkToken engine token
    let others ← checkTokens engine rest
    return first.append others

/-- The tokens of a text. -/
def checkText (engine : Engine σ) (template : String) : Session σ Findings :=
  checkTokens engine (Token.allIn template)

mutual

/-- The string leaves of a structure, in document order. -/
def checkNode (engine : Engine σ) : Node → Session σ Findings
  | .scalar (.string template) => checkText engine template
  | .scalar _ => return {}
  | .map entries => checkEntries engine entries
  | .list items => checkItems engine 0 items

/-- The entries of a map, one after the other. -/
def checkEntries (engine : Engine σ) : List (String × Node) → Session σ Findings
  | [] => return {}
  | (key, child) :: rest => do
    let first ← checkNode engine child
    let others ← checkEntries engine rest
    return (first.inside (.key key)).append others

/-- The items of a list from a position on, one after the other. -/
def checkItems (engine : Engine σ) (position : Nat) : List Node → Session σ Findings
  | [] => return {}
  | item :: rest => do
    let first ← checkNode engine item
    let others ← checkItems engine (position + 1) rest
    return (first.inside (.index position)).append others

end

/-- The verdict on a text. -/
def validateText (engine : Engine σ) (template : String) (required : List String) :
    Session σ (Except Errors Approval) := do
  let findings ← checkText engine template
  return findings.verdict required

/-- The verdict on a structure. -/
def validateNode (engine : Engine σ) (node : Node) (required : List String) :
    Session σ (Except Errors Approval) := do
  let findings ← checkNode engine node
  return findings.verdict required

end Placeholder.Engine
