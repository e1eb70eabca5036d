import Placeholder.Engine.Resolve
import Placeholder.Engine.Validate
import Placeholder.Shape.Extract

/-!
# Rendering

From a template to typed data in three steps: the template is validated, then resolved, then read
as the type that is wanted.  A template that is not valid is not resolved at all.
-/

namespace Placeholder

/-- Why a template does not give the data that is wanted. -/
inductive RenderError where
  | invalid (errors : Errors)
  | unreadable (error : ExtractionError)
  deriving DecidableEq

def RenderError.message : RenderError → String
  | .invalid errors => "Validation error: " ++ errors.text
  | .unreadable error => "Serde error: " ++ error.message

namespace Engine

variable {σ : Type} {ν : Type}

/-- The structure read as a shape. -/
def readNode (schema : Schema ν) (shape : Shape ν) (node : Node) : Except RenderError Datum :=
  (node.extract schema shape).mapError .unreadable

/-- The data that a template gives. -/
def render (engine : Engine σ) (schema : Schema ν) (shape : Shape ν) (node : Node)
    (required : List String) : Session σ (Except RenderError Datum) := do
  match ← validateNode engine node required with
  | .error errors => return .error (.invalid errors)
  | .ok _ =>
    let resolved ← resolveNode engine node
    return readNode schema shape resolved

end Engine

end Placeholder
