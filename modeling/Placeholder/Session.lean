import Placeholder.Value
import Placeholder.Warning

/-!
# Sessions

Macros and modifiers may keep a state, and what an engine does to them can be observed.  A session
is a computation that carries the state along and writes down, in order, each check, each call and
each warning.  Computations in sequence write one after the other.
-/

namespace Placeholder

/-- What a macro learns about the token that it is called for. -/
structure Call where
  parameter : Option String
  name : String
  /-- The token as it is written. -/
  token : String
  deriving DecidableEq

/-- Whose macro is used: the one registered under the name, or the fallback for unknown names. -/
inductive MacroOrigin where
  | registered
  | fallback
  deriving DecidableEq

/-- Which modifier is used: the one registered under a name, or the final one. -/
inductive ModifierOrigin where
  | registered (name : String)
  | final
  deriving DecidableEq

/-- One thing that an engine does. -/
inductive Event where
  /-- The macro for a name has been asked about a parameter. -/
  | checked (origin : MacroOrigin) (name : String) (parameter : Option String)
  /-- The macro for a name has been called. -/
  | resolved (origin : MacroOrigin) (call : Call)
  /-- A modifier has been called on a value. -/
  | transformed (origin : ModifierOrigin) (value : Value)
  | warned (warning : Warning)
  deriving DecidableEq

/-- The warning of an event, if it is one. -/
def Event.warning? : Event → Option Warning
  | .warned warning => some warning
  | _ => none

/-- What a session comes to: a result, the state after it, and what was done. -/
structure Outcome (σ α : Type) where
  result : α
  state : σ
  events : List Event := []

/-- The warnings among the events, in order. -/
def Outcome.warnings {σ α : Type} (outcome : Outcome σ α) : List Warning :=
  outcome.events.filterMap Event.warning?

/-- A computation over a state of type `σ` that can be observed. -/
def Session (σ α : Type) : Type := σ → Outcome σ α

namespace Session

variable {σ α β : Type}

/-- What the session comes to from a state. -/
def run (session : Session σ α) (state : σ) : Outcome σ α := session state

/-- A result without doing anything. -/
protected def pure (result : α) : Session σ α := fun state => { result, state }

/-- One session after the other. -/
protected def bind (first : Session σ α) (next : α → Session σ β) : Session σ β := fun state =>
  let before := first state
  let after := next before.result before.state
  { result := after.result, state := after.state, events := before.events ++ after.events }

instance : Monad (Session σ) where
  pure := Session.pure
  bind := Session.bind

/-- Something that is done without a look at the state. -/
def note (event : Event) : Session σ Unit := fun state =>
  { result := (), state, events := [event] }

/-- A call that may use and change the state. -/
def call (event : Event) (action : σ → α × σ) : Session σ α := fun state =>
  let (result, state) := action state
  { result, state, events := [event] }

/-- A warning. -/
def warn (warning : Warning) : Session σ Unit := note (.warned warning)

@[simp] theorem run_pure (result : α) (state : σ) :
    (pure result : Session σ α).run state = { result, state } := rfl

@[simp] theorem run_bind (first : Session σ α) (next : α → Session σ β) (state : σ) :
    (first >>= next).run state =
      let before := first.run state
      let after := (next before.result).run before.state
      { result := after.result, state := after.state, events := before.events ++ after.events } :=
  rfl

theorem bind_pure_comp_id (session : Session σ α) : session.bind Session.pure = session := by
  funext state
  simp [Session.bind, Session.pure]

instance : LawfulMonad (Session σ) :=
  LawfulMonad.mk' _
    bind_pure_comp_id
    (fun _ _ => rfl)
    (fun first next last => by
      funext state
      simp [bind, Session.bind, List.append_assoc])

end Session

end Placeholder
