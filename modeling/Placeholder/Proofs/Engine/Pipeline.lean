import Placeholder.Engine.Resolve

/-!
# The pipeline of a token

What resolving a token does, told as a relation between what there is before and the outcome: the
call of the macro, the entries of the chain from left to right, and the final modifier.  Each stage
has one rule for each thing that can happen in it, with the calls and warnings that it writes down,
and no stage looks at how the engine computes.

The lemmas come in this order:
- `Called`: a call of a macro or a modifier and what becomes of its reply
- `MacroStage`, `EntryStage`, `ChainStages`, `FinalStage`, `Pipeline`: the stages; the engine goes
  through each (`*_run`) and nothing else may happen in it (`*.unique`)
- what the events of each stage tell, by induction on the chain (`*.tells`), and that a chain of
  optional entries does nothing after null (`ChainStages.eq_of_optional`)

Main statement: `resolveToken_exact`.
-/

namespace Placeholder

/-! ## Events by stage -/

/-- The call of a macro that the event tells of, if it does, and whose macro it was. -/
def Event.macroCall? : Event → Option (MacroOrigin × Call)
  | .resolved origin call => some (origin, call)
  | _ => none

/-- The name of the chain entry that the event tells of, if it does: a modifier has been called
under the name, or no modifier has been found under it. -/
def Event.entry? : Event → Option String
  | .transformed (.registered name) _ => some name
  | .warned warning =>
    match warning.kind with
    | .modifierNotFound => warning.context? "modifier"
    | .notScalar => none
  | _ => none

/-- The value on which the event tells that the final modifier has been called, if it does. -/
def Event.finalCall? : Event → Option Value
  | .transformed .final value => some value
  | _ => none

namespace Engine

variable {σ : Type}

/-! ## Calls -/

/-- A call is written down, and its reply is the value, or the reply is refused: the value is null
then, and one warning tells the type that was found. -/
inductive Called (event : Event) (message : String) (context : List (String × String)) :
    Except NotScalar Value × σ → Outcome σ Value → Prop where
  | taken (value : Value) (state : σ) :
      Called event message context (.ok value, state)
        { result := value, state, events := [event] }
  | refused (found : String) (state : σ) :
      Called event message context (.error { found }, state)
        { result := .null
          state
          events := [event,
            .warned { kind := .notScalar, message, context := context ++ [("found", found)] }] }

theorem Called.unique {event : Event} {message : String} {context : List (String × String)}
    {reply : Except NotScalar Value × σ} {first second : Outcome σ Value}
    (hfirst : Called event message context reply first)
    (hsecond : Called event message context reply second) : first = second := by
  cases hfirst with
  | taken value state =>
    cases hsecond
    rfl
  | refused found state =>
    cases hsecond
    rfl

/-- The reply of a call, taken or refused, whatever the action replies. -/
theorem called_run (event : Event) (action : σ → Except NotScalar Value × σ) (state : σ)
    {message : String} {context : List (String × String)} (refusal : String → Warning)
    (hrefusal : ∀ found, refusal found =
      { kind := .notScalar, message, context := context ++ [("found", found)] }) :
    Called event message context (action state)
      ((Session.call event action >>= fun
        | .ok value => (return value : Session σ Value)
        | .error error => do
          Session.warn (refusal error.found)
          return .null).run state) := by
  rcases hreply : action state with ⟨_ | value, after⟩
  · next error =>
    have hwarned : Called event message context (.error error, after) _ :=
      .refused error.found after
    rw [← hrefusal] at hwarned
    simpa [Session.run, Session.call, Session.warn, Session.note, bind, Session.bind, pure,
      Session.pure, hreply] using hwarned
  · have htaken : Called event message context (.ok value, after) _ := .taken value after
    simpa [Session.run, Session.call, bind, Session.bind, pure, Session.pure, hreply] using htaken

/-! ## Stages -/

/-- A macro is called for the token, with its parameter, its name and its text. -/
def MacroCalled (token : Token) (origin : MacroOrigin) (item : Macro σ) (state : σ) :
    Outcome σ Value → Prop :=
  let call : Call := { parameter := token.parameter, name := token.name, token := token.raw }
  Called (.resolved origin call) "macro produced a value outside string|int|float|bool|null"
    [("macro", token.raw)] (item.resolve call state)

/-- A modifier is called on a value, under the name that a refusal tells. -/
def ModifierCalled (token : Token) (origin : ModifierOrigin) (name : String) (item : Modifier σ)
    (value : Value) (state : σ) : Outcome σ Value → Prop :=
  Called (.transformed origin value) "modifier produced a value outside string|int|float|bool|null"
    [("macro", token.raw), ("modifier", name)] (item.transform value state)

/-- The macro under the token's name is called, or the fallback if the name has none. -/
inductive MacroStage (engine : Engine σ) (token : Token) (state : σ) : Outcome σ Value → Prop where
  | registered {item : Macro σ} {outcome : Outcome σ Value}
      (hitem : engine.macros.get? token.name = some item)
      (hcalled : MacroCalled token .registered item state outcome) :
      MacroStage engine token state outcome
  | fallback {outcome : Outcome σ Value}
      (hitem : engine.macros.get? token.name = none)
      (hcalled : MacroCalled token .fallback engine.fallback state outcome) :
      MacroStage engine token state outcome

/-- The turn of one chain entry.  An optional entry is passed over where the value is null; every
other entry is due, and then its modifier is called, or it is reported as unknown. -/
inductive EntryStage (engine : Engine σ) (token : Token) (step : Step) (value : Value)
    (state : σ) : Outcome σ Value → Prop where
  | passedOver (hoptional : step.optional = true) (hnull : value = .null) :
      EntryStage engine token step value state { result := value, state, events := [] }
  | unknown (hdue : ¬ (step.optional = true ∧ value = .null))
      (hitem : engine.modifiers.get? step.name = none) :
      EntryStage engine token step value state
        { result := value
          state
          events := [.warned
            { kind := .modifierNotFound
              message := "modifier not found: " ++ step.name
              context := [("macro", token.raw), ("modifier", step.name)] }] }
  | applied {item : Modifier σ} {outcome : Outcome σ Value}
      (hdue : ¬ (step.optional = true ∧ value = .null))
      (hitem : engine.modifiers.get? step.name = some item)
      (hcalled : ModifierCalled token (.registered step.name) step.name item value state
        outcome) :
      EntryStage engine token step value state outcome

/-- The turns of chain entries from left to right, each on what the turn before has left. -/
inductive ChainStages (engine : Engine σ) (token : Token) :
    List Step → Value → σ → Outcome σ Value → Prop where
  | done (value : Value) (state : σ) :
      ChainStages engine token [] value state { result := value, state, events := [] }
  | next {step : Step} {rest : List Step} {value : Value} {state : σ} {turn last : Outcome σ Value}
      (hentry : EntryStage engine token step value state turn)
      (hrest : ChainStages engine token rest turn.result turn.state last) :
      ChainStages engine token (step :: rest) value state
        { last with events := turn.events ++ last.events }

/-- The final modifier is called if there is one and the value is a string. -/
inductive FinalStage (engine : Engine σ) (token : Token) (value : Value) (state : σ) :
    Outcome σ Value → Prop where
  | absent (hitem : engine.finalModifier = none) :
      FinalStage engine token value state { result := value, state, events := [] }
  | noString (hvalue : ∀ s, value ≠ .string s) :
      FinalStage engine token value state { result := value, state, events := [] }
  | applied {item : Modifier σ} {s : String} {outcome : Outcome σ Value}
      (hitem : engine.finalModifier = some item) (hvalue : value = .string s)
      (hcalled : ModifierCalled token .final "final_string_modifier" item value state outcome) :
      FinalStage engine token value state outcome

/-- The macro, then the chain, then the final modifier, each on what the one before has left. -/
inductive Pipeline (engine : Engine σ) (token : Token) (state : σ) : Outcome σ Value → Prop where
  | stages {origin chain last : Outcome σ Value}
      (horigin : MacroStage engine token state origin)
      (hchain : ChainStages engine token token.steps origin.result origin.state chain)
      (hfinal : FinalStage engine token chain.result chain.state last) :
      Pipeline engine token state
        { last with events := origin.events ++ (chain.events ++ last.events) }

section Run

variable (engine : Engine σ) (token : Token)

theorem callMacro_of_macroFor {origin : MacroOrigin} {item : Macro σ}
    (hfor : engine.macroFor token.name = (origin, item)) (state : σ) :
    MacroCalled token origin item state ((callMacro engine token).run state) := by
  unfold MacroCalled callMacro
  rw [hfor]
  exact called_run _ _ state (.ofMacro token.raw) fun _ => rfl

theorem callMacro_run (state : σ) :
    MacroStage engine token state ((callMacro engine token).run state) := by
  cases hitem : engine.macros.get? token.name with
  | some item =>
    have hfor : engine.macroFor token.name = (.registered, item) := by rw [macroFor, hitem]
    exact .registered hitem (callMacro_of_macroFor engine token hfor state)
  | none =>
    have hfor : engine.macroFor token.name = (.fallback, engine.fallback) := by
      rw [macroFor, hitem]
    exact .fallback hitem (callMacro_of_macroFor engine token hfor state)

theorem callModifier_run (origin : ModifierOrigin) (name : String) (item : Modifier σ)
    (value : Value) (state : σ) :
    ModifierCalled token origin name item value state
      ((callModifier token origin name item value).run state) := by
  unfold ModifierCalled callModifier
  exact called_run _ _ state (.ofModifier token.raw name) fun _ => rfl

theorem applyStep_run (step : Step) (value : Value) (state : σ) :
    EntryStage engine token step value state
      ((applyStep engine token value step).run state) := by
  have hnull : value.isNull = true ↔ value = .null := by
    cases value <;> simp [Value.isNull]
  by_cases hdue : step.optional = true ∧ value = .null
  · obtain ⟨hoptional, rfl⟩ := hdue
    rw [applyStep, if_pos (by simp [hoptional, Value.isNull])]
    exact .passedOver hoptional rfl
  · rw [applyStep, if_neg (by simpa [hnull] using hdue)]
    cases hitem : engine.modifiers.get? step.name with
    | some item =>
      exact .applied hdue hitem (callModifier_run token _ _ item value state)
    | none => exact .unknown hdue hitem

theorem applySteps_run (steps : List Step) (value : Value) (state : σ) :
    ChainStages engine token steps value state
      ((applySteps engine token value steps).run state) := by
  induction steps generalizing value state with
  | nil => exact .done value state
  | cons step rest ih =>
    rw [applySteps, Session.run_bind]
    exact .next (applyStep_run engine token step value state) (ih _ _)

theorem applyFinal_run (value : Value) (state : σ) :
    FinalStage engine token value state ((applyFinal engine token value).run state) := by
  unfold applyFinal
  cases hitem : engine.finalModifier with
  | none => exact .absent hitem
  | some item =>
    cases value with
    | string s => exact .applied hitem rfl (callModifier_run token _ _ item _ state)
    | integer i => exact .noString (by simp)
    | float x => exact .noString (by simp)
    | boolean b => exact .noString (by simp)
    | null => exact .noString (by simp)

theorem resolveToken_run (state : σ) :
    Pipeline engine token state ((resolveToken engine token).run state) := by
  rw [resolveToken, Session.run_bind]
  simp only [Session.run_bind]
  exact .stages (callMacro_run engine token state) (applySteps_run engine token _ _ _)
    (applyFinal_run engine token _ _)

end Run

/-! ## Nothing else happens -/

section Unique

variable {engine : Engine σ} {token : Token} {first second : Outcome σ Value}

theorem MacroStage.unique {state : σ} (hfirst : MacroStage engine token state first)
    (hsecond : MacroStage engine token state second) : first = second := by
  cases hfirst with
  | registered hitem hcalled =>
    cases hsecond with
    | registered hitem' hcalled' =>
      obtain rfl := Option.some.inj (hitem.symm.trans hitem')
      exact Called.unique hcalled hcalled'
    | fallback hitem' => simp [hitem] at hitem'
  | fallback hitem hcalled =>
    cases hsecond with
    | registered hitem' => simp [hitem] at hitem'
    | fallback _ hcalled' => exact Called.unique hcalled hcalled'

theorem EntryStage.unique {step : Step} {value : Value} {state : σ}
    (hfirst : EntryStage engine token step value state first)
    (hsecond : EntryStage engine token step value state second) : first = second := by
  cases hfirst with
  | passedOver hoptional hnull =>
    cases hsecond with
    | passedOver => rfl
    | unknown hdue => exact absurd ⟨hoptional, hnull⟩ hdue
    | applied hdue => exact absurd ⟨hoptional, hnull⟩ hdue
  | unknown hdue hitem =>
    cases hsecond with
    | passedOver hoptional hnull => exact absurd ⟨hoptional, hnull⟩ hdue
    | unknown => rfl
    | applied _ hitem' => simp [hitem] at hitem'
  | applied hdue hitem hcalled =>
    cases hsecond with
    | passedOver hoptional hnull => exact absurd ⟨hoptional, hnull⟩ hdue
    | unknown _ hitem' => simp [hitem] at hitem'
    | applied _ hitem' hcalled' =>
      obtain rfl := Option.some.inj (hitem.symm.trans hitem')
      exact Called.unique hcalled hcalled'

theorem ChainStages.unique {steps : List Step} {value : Value} {state : σ}
    (hfirst : ChainStages engine token steps value state first)
    (hsecond : ChainStages engine token steps value state second) : first = second := by
  induction hfirst generalizing second with
  | done =>
    cases hsecond
    rfl
  | next hentry _ ih =>
    cases hsecond with
    | next hentry' hrest' =>
      obtain rfl := hentry.unique hentry'
      rw [ih hrest']

theorem FinalStage.unique {value : Value} {state : σ}
    (hfirst : FinalStage engine token value state first)
    (hsecond : FinalStage engine token value state second) : first = second := by
  cases hfirst with
  | absent hitem =>
    cases hsecond with
    | absent => rfl
    | noString => rfl
    | applied hitem' => simp [hitem] at hitem'
  | noString hvalue =>
    cases hsecond with
    | absent => rfl
    | noString => rfl
    | applied _ hvalue' => exact absurd hvalue' (hvalue _)
  | applied hitem hvalue hcalled =>
    cases hsecond with
    | absent hitem' => simp [hitem] at hitem'
    | noString hvalue' => exact absurd hvalue (hvalue' _)
    | applied hitem' _ hcalled' =>
      obtain rfl := Option.some.inj (hitem.symm.trans hitem')
      exact Called.unique hcalled hcalled'

theorem Pipeline.unique {state : σ} (hfirst : Pipeline engine token state first)
    (hsecond : Pipeline engine token state second) : first = second := by
  cases hfirst with
  | stages horigin hchain hfinal =>
    cases hsecond with
    | stages horigin' hchain' hfinal' =>
      obtain rfl := horigin.unique horigin'
      obtain rfl := hchain.unique hchain'
      rw [hfinal.unique hfinal']

end Unique

/-! ## What the events tell -/

/-- Of a call, the events tell the call itself, and a refusal adds nothing to that. -/
theorem Called.filterMap_events {α : Type} {event : Event} {message : String}
    {context : List (String × String)} {reply : Except NotScalar Value × σ}
    {outcome : Outcome σ Value} (hcalled : Called event message context reply outcome)
    (f : Event → Option α)
    (hf : ∀ warning, warning.kind = .notScalar → f (.warned warning) = none) :
    outcome.events.filterMap f = (f event).toList := by
  have hsingle : [event].filterMap f = (f event).toList := by
    cases hevent : f event <;> simp [hevent]
  cases hcalled with
  | taken => exact hsingle
  | refused found state =>
    have hnone := hf { kind := .notScalar, message, context := context ++ [("found", found)] } rfl
    rw [← List.singleton_append, List.filterMap_append, hsingle, List.filterMap_cons_none hnone,
      List.filterMap_nil, List.append_nil]

theorem Called.tells {event : Event} {message : String} {context : List (String × String)}
    {reply : Except NotScalar Value × σ} {outcome : Outcome σ Value}
    (hcalled : Called event message context reply outcome) :
    outcome.events.filterMap Event.macroCall? = event.macroCall?.toList ∧
    outcome.events.filterMap Event.entry? = event.entry?.toList ∧
    outcome.events.filterMap Event.finalCall? = event.finalCall?.toList := by
  have hentry : ∀ warning : Warning, warning.kind = .notScalar →
      Event.entry? (.warned warning) = none := by
    intro warning hkind
    simp only [Event.entry?, hkind]
  exact ⟨hcalled.filterMap_events _ fun _ _ => rfl, hcalled.filterMap_events _ hentry,
    hcalled.filterMap_events _ fun _ _ => rfl⟩

section Tells

variable {engine : Engine σ} {token : Token} {outcome : Outcome σ Value}

theorem MacroStage.tells {state : σ} (h : MacroStage engine token state outcome) :
    outcome.events.filterMap Event.macroCall? =
      [(if (engine.macros.get? token.name).isSome then .registered else .fallback,
        { parameter := token.parameter, name := token.name, token := token.raw })] ∧
    outcome.events.filterMap Event.entry? = [] ∧
    outcome.events.filterMap Event.finalCall? = [] := by
  cases h with
  | registered hitem hcalled =>
    rw [hitem]
    exact Called.tells hcalled
  | fallback hitem hcalled =>
    rw [hitem]
    exact Called.tells hcalled

theorem EntryStage.tells {step : Step} {value : Value} {state : σ}
    (h : EntryStage engine token step value state outcome) :
    outcome.events.filterMap Event.macroCall? = [] ∧
    outcome.events.filterMap Event.entry? =
      (if step.optional = true ∧ value = .null then [] else [step.name]) ∧
    outcome.events.filterMap Event.finalCall? = [] := by
  cases h with
  | passedOver hoptional hnull =>
    rw [if_pos ⟨hoptional, hnull⟩]
    exact ⟨rfl, rfl, rfl⟩
  | unknown hdue =>
    rw [if_neg hdue]
    exact ⟨rfl, rfl, rfl⟩
  | applied hdue _ hcalled =>
    rw [if_neg hdue]
    exact Called.tells hcalled

/-- The entries of which a chain tells stand in its order, and only optional ones are missing. -/
theorem ChainStages.tells {steps : List Step} {value : Value} {state : σ}
    (h : ChainStages engine token steps value state outcome) :
    outcome.events.filterMap Event.macroCall? = [] ∧
    (((steps.filter fun step => !step.optional).map Step.name).Sublist
        (outcome.events.filterMap Event.entry?) ∧
      (outcome.events.filterMap Event.entry?).Sublist (steps.map Step.name)) ∧
    outcome.events.filterMap Event.finalCall? = [] := by
  induction h with
  | done => exact ⟨rfl, ⟨List.Sublist.refl _, List.Sublist.refl _⟩, rfl⟩
  | @next step rest value state turn last hentry hrest ih =>
    obtain ⟨horigin, hname, hfinal⟩ := hentry.tells
    obtain ⟨horigins, ⟨hrequired, hall⟩, hfinals⟩ := ih
    simp only [List.filterMap_append, horigin, horigins, hname, hfinal, hfinals, List.append_nil,
      true_and, and_true, List.map_cons]
    by_cases hpassed : step.optional = true ∧ value = .null
    · rw [if_pos hpassed, List.nil_append, List.filter_cons_of_neg (by simp [hpassed.1])]
      exact ⟨hrequired, hall.cons _⟩
    · rw [if_neg hpassed, List.singleton_append]
      refine ⟨?_, hall.cons_cons _⟩
      by_cases hoptional : step.optional = true
      · rw [List.filter_cons_of_neg (by simp [hoptional])]
        exact hrequired.cons _
      · rw [List.filter_cons_of_pos (by simpa using hoptional), List.map_cons]
        exact hrequired.cons_cons _

/-- Once the value is null, entries that are all optional do nothing more. -/
theorem ChainStages.eq_of_optional {steps : List Step} {state : σ}
    (h : ChainStages engine token steps .null state outcome)
    (hoptional : ∀ step ∈ steps, step.optional = true) :
    outcome = { result := .null, state, events := [] } := by
  induction steps generalizing state outcome with
  | nil =>
    cases h
    rfl
  | cons step rest ih =>
    cases h with
    | next hentry hrest =>
      have hpassed : EntryStage engine token step .null state
          { result := .null, state, events := [] } :=
        .passedOver (hoptional step List.mem_cons_self) rfl
      obtain rfl := hentry.unique hpassed
      obtain rfl := ih hrest fun other hother => hoptional other (List.mem_cons_of_mem step hother)
      rfl

theorem FinalStage.tells {value : Value} {state : σ}
    (h : FinalStage engine token value state outcome) :
    outcome.events.filterMap Event.macroCall? = [] ∧
    outcome.events.filterMap Event.entry? = [] ∧
    outcome.events.filterMap Event.finalCall? =
      if engine.finalModifier.isSome ∧ value.isString then [value] else [] := by
  cases h with
  | absent hitem =>
    rw [if_neg (by simp [hitem])]
    exact ⟨rfl, rfl, rfl⟩
  | noString hvalue =>
    have hstring : value.isString = false := by
      cases value with
      | string s => exact absurd rfl (hvalue s)
      | integer | float | boolean | null => rfl
    rw [if_neg (by simp [hstring])]
    exact ⟨rfl, rfl, rfl⟩
  | applied hitem hvalue hcalled =>
    rw [if_pos (by simp [hitem, hvalue, Value.isString])]
    exact Called.tells hcalled

theorem Pipeline.tells {state : σ} (h : Pipeline engine token state outcome) :
    outcome.events.filterMap Event.macroCall? =
      [(if (engine.macros.get? token.name).isSome then .registered else .fallback,
        { parameter := token.parameter, name := token.name, token := token.raw })] ∧
    ((token.steps.filter fun step => !step.optional).map Step.name).Sublist
      (outcome.events.filterMap Event.entry?) ∧
    (outcome.events.filterMap Event.entry?).Sublist (token.steps.map Step.name) ∧
    (∀ origin chain, MacroStage engine token state origin →
      ChainStages engine token token.steps origin.result origin.state chain →
      outcome.events.filterMap Event.finalCall? =
        if engine.finalModifier.isSome ∧ chain.result.isString then [chain.result] else []) := by
  cases h with
  | @stages origin chain last horigin hchain hfinal =>
    obtain ⟨horiginCall, horiginName, horiginFinal⟩ := horigin.tells
    obtain ⟨hchainCall, ⟨hrequired, hall⟩, hchainFinal⟩ := hchain.tells
    obtain ⟨hfinalCall, hfinalName, hfinalFinal⟩ := hfinal.tells
    simp only [List.filterMap_append, horiginCall, hchainCall, hfinalCall, horiginName, hfinalName,
      horiginFinal, hchainFinal, hfinalFinal, List.append_nil, List.nil_append, true_and]
    refine ⟨hrequired, hall, ?_⟩
    intro origin' chain' horigin' hchain'
    obtain rfl := horigin.unique horigin'
    obtain rfl := hchain.unique hchain'
    rfl

end Tells

/-- Whatever the engine, its state and the token, resolving the token does what the pipeline tells
and nothing else.  In all that is done the macro is called once; the entries that are called or
reported stand in the order of the chain, each once, and only optional ones are missing; and the
final modifier is called once if there is one and the chain has left a string, else not at all. -/
theorem resolveToken_exact (engine : Engine σ) (token : Token) (state : σ) :
    let outcome := (resolveToken engine token).run state
    (∀ other, Pipeline engine token state other ↔ other = outcome) ∧
    outcome.events.filterMap Event.macroCall? =
      [(if (engine.macros.get? token.name).isSome then .registered else .fallback,
        { parameter := token.parameter, name := token.name, token := token.raw })] ∧
    ((token.steps.filter fun step => !step.optional).map Step.name).Sublist
      (outcome.events.filterMap Event.entry?) ∧
    (outcome.events.filterMap Event.entry?).Sublist (token.steps.map Step.name) ∧
    (∀ origin chain, MacroStage engine token state origin →
      ChainStages engine token token.steps origin.result origin.state chain →
      outcome.events.filterMap Event.finalCall? =
        if engine.finalModifier.isSome ∧ chain.result.isString then [chain.result] else []) := by
  intro outcome
  have hpipeline : Pipeline engine token state outcome := resolveToken_run engine token state
  have hexact : ∀ other, Pipeline engine token state other ↔ other = outcome := by
    intro other
    constructor
    · intro hother
      exact hother.unique hpipeline
    · intro hother
      rw [hother]
      exact hpipeline
  exact ⟨hexact, hpipeline.tells⟩

end Engine

end Placeholder
