import Placeholder.Text.Quoted
import Placeholder.Validation

/-!
# Rules for parameters

Which parameters a macro takes: none, only those of a list, or any.
-/

namespace Placeholder

/-- A rule for the parameter of a token. -/
inductive ParameterRule where
  | none
  | oneOf (values : List String)
  | any
  deriving DecidableEq, Inhabited

/-- Why a parameter is refused. -/
inductive ParameterFault where
  | notAllowed
  /-- The list of allowed values is empty. -/
  | noneAvailable
  /-- The parameter, empty if there is none, is not in the list. -/
  | notListed (parameter : String) (allowed : List String)
  deriving DecidableEq

def ParameterFault.message : ParameterFault → String
  | .notAllowed => "param not allowed"
  | .noneAvailable => "there are no available parameters"
  | .notListed parameter allowed =>
    "invalid param `" ++ parameter ++ "`, allowed only: `" ++ "`, `".intercalate allowed ++ "`"

namespace ParameterRule

/-- Whether a token may have a parameter at all. -/
def accepts : ParameterRule → Bool
  | .none => false
  | _ => true

/-- The list of allowed values, if there is one. -/
def allowed? : ParameterRule → Option (List String)
  | .oneOf values => some values
  | _ => .none

/-- Why the parameter is refused, if it is. -/
def fault? : ParameterRule → Option String → Option ParameterFault
  | .any, _ => .none
  | .none, .none => .none
  | .none, some _ => some .notAllowed
  | .oneOf [], _ => some .noneAvailable
  | .oneOf values, .none => some (.notListed "" values)
  | .oneOf values, some p => if values.contains p then .none else some (.notListed p values)

/-- The verdict on the parameter. -/
def check (rule : ParameterRule) (parameter : Option String) : Except ValidationError Unit :=
  match rule.fault? parameter with
  | .none => .ok ()
  | some fault => .error { message := fault.message }

/-- The rule by its name, with the texts of its list in quotes. -/
def shown : ParameterRule → String
  | .none => "NotAllowed"
  | .oneOf values => "AllowOnly(" ++ Text.quotedList values ++ ")"
  | .any => "Any"

end ParameterRule

end Placeholder
