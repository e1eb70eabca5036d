import Placeholder.Proofs.Engine.Leaves
import Placeholder.Proofs.Engine.Locality
import Placeholder.Proofs.Engine.Pipeline
import Placeholder.Proofs.Engine.Verdict
import Placeholder.Stock.Macros
import Placeholder.Stock.Modifiers

/-!
# Macros that are asked and macros that are called

Validating asks macros about parameters and resolving calls macros, in two separate walks.  Here
both are told as one list of requests, one for each token of the structure.

For the walk that resolves it does not matter which structure and which texts the tokens stand in:
apart from its result it does what resolving the tokens one after the other does
(`effects_resolveNode`).  So what a whole structure does follows by induction on its tokens: the
calls (`called_resolveTokens`), and what a counter in the state has counted
(`count_resolveTokens`).

Main statement: `resolveNode_calls_exact`.
-/

namespace Placeholder

/-- One of an engine's macros: the one registered under a name, or the one for all other names. -/
inductive MacroRef where
  | registered (name : String)
  | fallback
  deriving DecidableEq

/-- What a macro is asked about or called for. -/
structure Request where
  item : MacroRef
  name : String
  parameter : Option String
  deriving DecidableEq

/-- Which macro is meant by the origin of the macro for a name. -/
def MacroOrigin.ref (origin : MacroOrigin) (name : String) : MacroRef :=
  match origin with
  | .registered => .registered name
  | .fallback => .fallback

/-- The request to rule on a parameter that the event tells of, if it does. -/
def Event.asked? : Event → Option Request
  | .checked origin name parameter => some ⟨origin.ref name, name, parameter⟩
  | _ => none

/-- The request for a value that the event tells of, if it does. -/
def Event.called? (event : Event) : Option Request :=
  event.macroCall?.map fun (origin, call) => ⟨origin.ref call.name, call.name, call.parameter⟩

/-! ## Sessions without their results -/

namespace Session

variable {σ α β : Type}

/-- What the session does, without its result. -/
def effects (session : Session σ α) : Session σ Unit := do
  let _ ← session
  return ()

theorem run_effects (session : Session σ α) (state : σ) :
    session.effects.run state = { session.run state with result := () } := by
  simp only [effects, run_bind, run_pure, List.append_nil]

theorem effects_bind (first : Session σ α) (next : α → Session σ β) :
    (first >>= next).effects = first >>= fun result => (next result).effects :=
  bind_assoc ..

/-- Where the result of the first session does not count for what comes next. -/
theorem effects_bind_of_eq (first : Session σ α) (next : α → Session σ β) {rest : Session σ Unit}
    (h : ∀ result, (next result).effects = rest) :
    (first >>= next).effects = first.effects >>= fun _ => rest := by
  simp only [effects_bind, h]
  rw [effects, bind_assoc]
  simp only [pure_bind]

theorem effects_bind_pure (first : Session σ α) (f : α → β) :
    (first >>= fun result => pure (f result)).effects = first.effects := by
  rw [effects_bind]
  rfl

end Session

namespace Engine

open Node (PlacedText tokensIn)
open Outcome (stateAfter)

variable {σ : Type}

/-- Which macro is used for a name. -/
def macroRef (engine : Engine σ) (name : String) : MacroRef := (engine.macroFor name).1.ref name

/-- The macro that is meant. -/
def macroAt (engine : Engine σ) : MacroRef → Option (Macro σ)
  | .registered name => engine.macros.get? name
  | .fallback => some engine.fallback

/-- What a token asks of which macro. -/
def request (engine : Engine σ) (token : Token) : Request where
  item := engine.macroRef token.name
  name := token.name
  parameter := token.parameter

/-- Tokens resolved one after the other, without their values. -/
def resolveTokens (engine : Engine σ) : List Token → Session σ Unit
  | [] => return ()
  | token :: rest => do
    let _ ← resolveToken engine token
    resolveTokens engine rest

/-! ## Token by token -/

section

variable (engine : Engine σ)

theorem resolveTokens_append (first second : List Token) :
    resolveTokens engine (first ++ second) =
      resolveTokens engine first >>= fun _ => resolveTokens engine second := by
  induction first with
  | nil => rw [List.nil_append, resolveTokens, pure_bind]
  | cons token rest ih => rw [List.cons_append, resolveTokens, resolveTokens, ih, bind_assoc]

theorem effects_textOf (session : Session σ Value) : (textOf session).effects = session.effects :=
  Session.effects_bind_pure session _

theorem effects_mapM_textOf (tokens : List Token) :
    (tokens.mapM fun token => textOf (resolveToken engine token)).effects =
      resolveTokens engine tokens := by
  induction tokens with
  | nil => rfl
  | cons token rest ih =>
    have hrest : ∀ text, (rest.mapM (fun token => textOf (resolveToken engine token)) >>=
        fun texts => pure (text :: texts)).effects = resolveTokens engine rest := by
      intro text
      rw [Session.effects_bind_pure, ih]
    rw [List.mapM_cons, Session.effects_bind_of_eq _ _ hrest, effects_textOf, resolveTokens,
      Session.effects, bind_assoc]
    simp only [pure_bind]

theorem effects_resolveText (template : String) :
    (resolveText engine template).effects = resolveTokens engine (Token.allIn template) := by
  rw [← effects_textOf, textOf_resolveText, fillText_eq_embedText, embedText,
    Session.effects_bind_pure]
  exact effects_mapM_textOf engine (Token.allIn template)

/-- Resolving texts one after the other does what resolving their tokens one after the other
does. -/
theorem run_resolveTokens (texts : List PlacedText) (state : σ) :
    (resolveTokens engine (tokensIn texts)).run state =
      outcomeOf engine (fun _ => ()) texts state := by
  induction texts generalizing state with
  | nil => rfl
  | cons placed rest ih =>
    have htokens : tokensIn (placed :: rest) = Token.allIn placed.text ++ tokensIn rest := rfl
    rw [htokens, resolveTokens_append, ← effects_resolveText, Session.run_bind]
    simp only [Session.run_effects, ih, outcomeOf, turns, stateAfter_cons, List.flatMap_cons]

theorem effects_resolveNode (node : Node) :
    (resolveNode engine node).effects = resolveTokens engine node.tokens := by
  funext state
  show (resolveNode engine node).effects.run state = (resolveTokens engine node.tokens).run state
  rw [Session.run_effects, run_resolveNode, Node.tokens, run_resolveTokens]
  rfl

/-! ## Requests -/

theorem macroRef_eq (name : String) :
    engine.macroRef name =
      if (engine.macros.get? name).isSome then .registered name else .fallback := by
  unfold macroRef macroFor
  cases engine.macros.get? name <;> rfl

theorem called_resolveToken (token : Token) (state : σ) :
    ((resolveToken engine token).run state).events.filterMap Event.called? =
      [engine.request token] := by
  obtain ⟨hcall, -⟩ := (resolveToken_run engine token state).tells
  have hmap : ∀ events : List Event, events.filterMap Event.called? =
      (events.filterMap Event.macroCall?).map fun (origin, call) =>
        ⟨origin.ref call.name, call.name, call.parameter⟩ :=
    fun events => List.map_filterMap.symm
  rw [hmap, hcall, List.map_singleton, request, macroRef_eq]
  by_cases hitem : (engine.macros.get? token.name).isSome
  · rw [if_pos hitem, if_pos hitem]
    rfl
  · rw [if_neg hitem, if_neg hitem]
    rfl

theorem called_resolveTokens (tokens : List Token) (state : σ) :
    ((resolveTokens engine tokens).run state).events.filterMap Event.called? =
      tokens.map engine.request := by
  induction tokens generalizing state with
  | nil => rfl
  | cons token rest ih =>
    rw [resolveTokens, Session.run_bind, List.map_cons]
    simp only [List.filterMap_append, ih, called_resolveToken, List.singleton_append]

theorem asked_checkOf (tokens : List Token) :
    (tokens.map engine.checkOf).filterMap Event.asked? = tokens.map engine.request := by
  rw [List.filterMap_map, ← List.filterMap_eq_map]
  rfl

end

/-! ## Counters -/

/-- In the states that have the counter, it counts the calls of one macro: a call of this macro
advances it by one, and no other macro and no modifier of the engine touches it. -/
structure CountsCalls (engine : Engine σ) (ref : MacroRef) (count : σ → Option Nat) : Prop where
  macros {other : MacroRef} {item : Macro σ} (hitem : engine.macroAt other = some item)
    (call : Call) {state : σ} {n : Nat} (hn : count state = some n) :
    count (item.resolve call state).2 = some (n + if other = ref then 1 else 0)
  modifiers {name : String} {item : Modifier σ} (hitem : engine.modifiers.get? name = some item)
    (value : Value) {state : σ} {n : Nat} (hn : count state = some n) :
    count (item.transform value state).2 = some n
  final {item : Modifier σ} (hitem : engine.finalModifier = some item)
    (value : Value) {state : σ} {n : Nat} (hn : count state = some n) :
    count (item.transform value state).2 = some n

theorem Called.state_eq {event : Event} {message : String} {context : List (String × String)}
    {reply : Except NotScalar Value × σ} {outcome : Outcome σ Value}
    (h : Called event message context reply outcome) : outcome.state = reply.2 := by
  cases h <;> rfl

namespace CountsCalls

variable {engine : Engine σ} {ref : MacroRef} {count : σ → Option Nat} {token : Token}
  {value : Value} {state : σ} {outcome : Outcome σ Value} {n : Nat}

theorem macroStage (h : CountsCalls engine ref count)
    (hstage : MacroStage engine token state outcome) (hn : count state = some n) :
    count outcome.state = some (n + if engine.macroRef token.name = ref then 1 else 0) := by
  rw [macroRef_eq]
  cases hstage with
  | registered hitem hcalled =>
    have hat : engine.macroAt (.registered token.name) = some _ := hitem
    rw [hcalled.state_eq, hitem]
    exact h.macros hat _ hn
  | fallback hitem hcalled =>
    rw [hcalled.state_eq, hitem]
    exact h.macros rfl _ hn

theorem entryStage (h : CountsCalls engine ref count) {step : Step}
    (hstage : EntryStage engine token step value state outcome) (hn : count state = some n) :
    count outcome.state = some n := by
  cases hstage with
  | passedOver => exact hn
  | unknown => exact hn
  | applied _ hitem hcalled =>
    rw [hcalled.state_eq]
    exact h.modifiers hitem value hn

theorem chainStages (h : CountsCalls engine ref count) {steps : List Step}
    (hstages : ChainStages engine token steps value state outcome) (hn : count state = some n) :
    count outcome.state = some n := by
  induction hstages with
  | done => exact hn
  | next hentry _ ih => exact ih (h.entryStage hentry hn)

theorem finalStage (h : CountsCalls engine ref count)
    (hstage : FinalStage engine token value state outcome) (hn : count state = some n) :
    count outcome.state = some n := by
  cases hstage with
  | absent => exact hn
  | noString => exact hn
  | applied hitem _ hcalled =>
    rw [hcalled.state_eq]
    exact h.final hitem value hn

theorem pipeline (h : CountsCalls engine ref count)
    (hpipeline : Pipeline engine token state outcome) (hn : count state = some n) :
    count outcome.state = some (n + if engine.macroRef token.name = ref then 1 else 0) := by
  cases hpipeline with
  | stages horigin hchain hfinal =>
    have horiginCount := h.macroStage horigin hn
    have hchainCount := h.chainStages hchain horiginCount
    have hfinalCount := h.finalStage hfinal hchainCount
    exact hfinalCount

end CountsCalls

/-- After tokens have been resolved, the counter has grown by the number of tokens that the macro
is used for. -/
theorem count_resolveTokens {engine : Engine σ} {ref : MacroRef} {count : σ → Option Nat}
    (h : CountsCalls engine ref count) (tokens : List Token) {state : σ} {n : Nat}
    (hn : count state = some n) :
    count ((resolveTokens engine tokens).run state).state =
      some (n + (tokens.map engine.request).countP fun request => request.item = ref) := by
  induction tokens generalizing state n with
  | nil => exact hn
  | cons token rest ih =>
    have hfirst := h.pipeline (resolveToken_run engine token state) hn
    have hitem : (engine.request token).item = engine.macroRef token.name := rfl
    rw [resolveTokens, Session.run_bind]
    simp only [ih hfirst, List.map_cons, List.countP_cons, hitem, decide_eq_true_eq]
    rw [Nat.add_assoc, Nat.add_comm (if engine.macroRef token.name = ref then 1 else 0)]

/-- Whatever the engine, the template, the names that are required and the states, validating asks
the same macros about the same names and parameters, in the same order, as resolving then calls: one
request for each token, in document order.  So a counter of the calls of a macro grows in a
resolution by the number of the tokens that the macro is used for, and a template that is approved
uses the names that are resolved and no others. -/
theorem resolveNode_calls_exact (engine : Engine σ) (node : Node) (required : List String)
    (state state' : σ) :
    let validated := (validateNode engine node required).run state
    let resolved := (resolveNode engine node).run state'
    let requests := node.tokens.map engine.request
    validated.events.filterMap Event.asked? = resolved.events.filterMap Event.called? ∧
    resolved.events.filterMap Event.called? = requests ∧
    (∀ (ref : MacroRef) (count : σ → Option Nat) (n : Nat), CountsCalls engine ref count →
      count state' = some n →
      count resolved.state = some (n + requests.countP fun request => request.item = ref)) ∧
    (∀ approval, validated.result = .ok approval → ∀ name, name ∈ approval.used ↔
      ∃ request ∈ resolved.events.filterMap Event.called?, request.name = name) := by
  intro validated resolved requests
  have hresolved : { resolved with result := () } =
      (resolveTokens engine node.tokens).run state' := by
    rw [← effects_resolveNode, Session.run_effects]
  have hcalled : resolved.events.filterMap Event.called? = requests := by
    have hevents := called_resolveTokens engine node.tokens state'
    rw [← hresolved] at hevents
    exact hevents
  have hasked : validated.events.filterMap Event.asked? = requests := by
    have hevents : validated.events = node.tokens.map engine.checkOf := by
      show ((validateNode engine node required).run state).events = _
      rw [run_validateNode]
    rw [hevents, asked_checkOf]
  refine ⟨hasked.trans hcalled.symm, hcalled, ?_, ?_⟩
  · intro ref count n hcounts hn
    have hgrown := count_resolveTokens hcounts node.tokens hn
    rw [← hresolved] at hgrown
    exact hgrown
  · intro approval happroval name
    have hruling := ruling_validateNode engine node required state
    have hused : ListsOnce node.macroNames approval.used := by
      rw [show ((validateNode engine node required).run state).result = .ok approval from
        happroval] at hruling
      cases hruling with
      | approved _ _ hused => exact hused
    rw [hcalled, hused.mem_iff]
    simp only [requests, Node.macroNames, List.mem_map, exists_exists_and_eq_and, request]

/-- A macro that counts its calls, beside the fallback and a modifier that counts for itself, in a
structure with tokens in a key as well. -/
theorem resolveNode_calls_counter :
    let counting : Macro Counters :=
      (BuiltInMacro.computed (StockProducer.counter.produce 0) "int" "" .any).toMacro
    let numbering : Modifier Counters :=
      (BuiltInModifier.function (StockFunction.count.apply 1) scalarTypes "string" "").toModifier
    let engine : Engine Counters :=
      { macros := ⟨[("n", counting)], List.nodup_singleton _⟩
        modifiers := ⟨[("c", numbering)], List.nodup_singleton _⟩ }
    let node : Node := .map
      [("{{ n }}", .scalar (.string "{{ n }}")),
        ("list", .list [.scalar (.string "{{ n | c }} of {{ x: 1 }}, {{ n: 2 }}")])]
    let count (counters : Counters) : Option Nat := counters.counts[0]?
    CountsCalls engine (.registered "n") count ∧ count ⟨[5, 0]⟩ = some 5 ∧
      count ((resolveNode engine node).run ⟨[5, 0]⟩).state = some 8 := by
  intro counting numbering engine node count
  have hcounts : CountsCalls engine (.registered "n") count := by
    constructor
    · intro other item hitem call state n hn
      cases other with
      | registered name =>
        obtain ⟨rfl, rfl⟩ := Prod.mk.inj (List.mem_singleton.1 (Entries.mem_of_get? hitem))
        exact Counters.getElem?_advance hn 0
      | fallback =>
        obtain rfl := Option.some.inj hitem
        exact hn
    · intro name item hitem value state n hn
      obtain ⟨rfl, rfl⟩ := Prod.mk.inj (List.mem_singleton.1 (Entries.mem_of_get? hitem))
      exact Counters.getElem?_advance hn 1
    · intro item hitem
      exact absurd hitem (Option.some_ne_none item).symm
  have hrequests : (node.tokens.map engine.request).countP
      (fun request => request.item = .registered "n") = 3 := by
    decide +kernel
  obtain ⟨-, -, hgrown, -⟩ := resolveNode_calls_exact engine node [] ⟨[5, 0]⟩ ⟨[5, 0]⟩
  have hcount := hgrown (.registered "n") count 5 hcounts rfl
  rw [hrequests] at hcount
  exact ⟨hcounts, rfl, hcount⟩

end Engine

end Placeholder
