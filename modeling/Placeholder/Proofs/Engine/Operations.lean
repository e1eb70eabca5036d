import Placeholder.Engine.Render
import Placeholder.Proofs.Engine.Registration

/-!
# Engines in use

An engine that is asked for one thing after the other, as whoever holds it may do: more items are
registered, also under names that are taken, and in between the engine resolves, validates, renders
and tells what it has.  A refused registration is an answer like any other, and the engine goes on
as it was.

What comes before and what comes after may be told apart anywhere (`run_performAll_append`), and
there is one answer for each operation (`length_performAll`).
-/

namespace Placeholder

/-- Something that is asked of an engine. -/
inductive Operation (σ ν : Type) where
  | register (registration : Registration σ)
  | resolveText (template : String)
  | resolveNode (node : Node)
  | validateText (template : String) (required : List String)
  | validateNode (node : Node) (required : List String)
  | render (schema : Schema ν) (shape : Shape ν) (node : Node) (required : List String)
  | documentation
  /-- The entries of the documentation for a name. -/
  | entries (name : String)
  /-- The registered names. -/
  | names
  /-- Whether a name is registered. -/
  | known (name : String)
  | shown

/-- The attempt to register an item, if the operation is one. -/
def Operation.attempt? {σ ν : Type} : Operation σ ν → Option (Registration σ)
  | .register registration => some registration
  | _ => none

/-- What an engine answers. -/
inductive Answer where
  | registered
  | refused (refusal : DuplicateName)
  | value (value : Value)
  | node (node : Node)
  | verdict (verdict : Except Errors Approval)
  | rendered (result : Except RenderError Datum)
  | documentation (doc : Documentation)
  | entries (ofMacro : Option MacroEntry) (ofModifier : Option ModifierEntry)
  | names (ofMacros ofModifiers : List String)
  | known (asMacro asModifier : Bool)
  | shown (text : String)

/-- The answer to an attempt to register an item. -/
def Answer.ofAttempt : Except DuplicateName Unit → Answer
  | .ok () => .registered
  | .error refusal => .refused refusal

namespace Engine

variable {σ ν : Type}

/-- The answer to an operation, and the engine after it. -/
def perform (engine : Engine σ) : Operation σ ν → Session σ (Answer × Engine σ)
  | .register registration =>
    let (verdict, next) := engine.register registration
    return (.ofAttempt verdict, next)
  | .resolveText template => do
    let value ← resolveText engine template
    return (.value value, engine)
  | .resolveNode node => do
    let resolved ← resolveNode engine node
    return (.node resolved, engine)
  | .validateText template required => do
    let verdict ← validateText engine template required
    return (.verdict verdict, engine)
  | .validateNode node required => do
    let verdict ← validateNode engine node required
    return (.verdict verdict, engine)
  | .render schema shape node required => do
    let result ← render engine schema shape node required
    return (.rendered result, engine)
  | .documentation => return (.documentation engine.documentation, engine)
  | .entries name =>
    let doc := engine.documentation
    return (.entries (doc.macroEntry? name) (doc.modifierEntry? name), engine)
  | .names => return (.names engine.macroNames engine.modifierNames, engine)
  | .known name => return (.known (engine.hasMacro name) (engine.hasModifier name), engine)
  | .shown => return (.shown engine.shown, engine)

/-- The answers to operations that are performed one after the other, and the engine after the
last. -/
def performAll (engine : Engine σ) : List (Operation σ ν) → Session σ (List Answer × Engine σ)
  | [] => return ([], engine)
  | operation :: rest => do
    let (answer, engine) ← perform engine operation
    let (answers, engine) ← performAll engine rest
    return (answer :: answers, engine)

theorem run_performAll_cons (engine : Engine σ) (operation : Operation σ ν)
    (rest : List (Operation σ ν)) (state : σ) :
    (performAll engine (operation :: rest)).run state =
      let first := (perform engine operation).run state
      let others := (performAll first.result.2 rest).run first.state
      { result := (first.result.1 :: others.result.1, others.result.2)
        state := others.state
        events := first.events ++ others.events } := by
  simp only [performAll, Session.run_bind, Session.run_pure, List.append_nil]

theorem run_performAll_append (engine : Engine σ) (first second : List (Operation σ ν))
    (state : σ) :
    (performAll engine (first ++ second)).run state =
      let before := (performAll engine first).run state
      let after := (performAll before.result.2 second).run before.state
      { result := (before.result.1 ++ after.result.1, after.result.2)
        state := after.state
        events := before.events ++ after.events } := by
  induction first generalizing engine state with
  | nil => rfl
  | cons operation rest ih =>
    simp only [List.cons_append, run_performAll_cons, ih, List.append_assoc]

theorem length_performAll (engine : Engine σ) (operations : List (Operation σ ν)) (state : σ) :
    ((performAll engine operations).run state).result.1.length = operations.length := by
  induction operations generalizing engine state with
  | nil => rfl
  | cons operation rest ih =>
    simp only [run_performAll_cons, List.length_cons, ih]

/-- The answer in the place of an operation is what the operation comes to after those before it. -/
theorem getElem?_performAll (engine : Engine σ) (before after : List (Operation σ ν))
    (operation : Operation σ ν) (state : σ) :
    let reached := (performAll engine before).run state
    ((performAll engine (before ++ operation :: after)).run state).result.1[before.length]? =
      some ((perform reached.result.2 operation).run reached.state).result.1 := by
  intro reached
  have hlength : reached.result.1.length = before.length := length_performAll engine before state
  simp only [run_performAll_append, run_performAll_cons]
  rw [← hlength, List.getElem?_append_right (Nat.le_refl _), Nat.sub_self]
  rfl

/-- Only an attempt to register an item may change the engine. -/
theorem engine_perform (engine : Engine σ) {operation : Operation σ ν}
    (h : operation.attempt? = none) (state : σ) :
    ((perform engine operation).run state).result.2 = engine := by
  cases operation with
  | register registration => simp [Operation.attempt?] at h
  | resolveText | resolveNode | validateText | validateNode | render => rfl
  | documentation | entries | names | known | shown => rfl

end Engine

end Placeholder
