import Placeholder.Modifier.BuiltIn
import Placeholder.Proofs.Engine.Leaves
import Placeholder.Proofs.Engine.Locality
import Placeholder.Proofs.Engine.Registration
import Placeholder.Proofs.Node.Tokens
import Placeholder.Stock.Macros

/-!
# Tokens that pass through

An engine whose fallback is the macro that gives back the token, and which has no final modifier.
A token of which it knows neither the macro nor a modifier (`Unknown`) gives the text that is
written, whatever else stands around it, and leaves the state alone; each entry of its chain is
warned of (`run_resolveToken_of_unknown`).

A template with only such tokens is put together from its own pieces (`run_resolveText_of_unknown`),
and a structure from its own texts.

Main statement: `resolveNode_unknown_exact`.
-/

namespace Placeholder

namespace Engine

open Node (PlacedText tokensIn)

variable {σ : Type}

/-- The engine knows neither the macro of the token nor any modifier of its chain. -/
structure Unknown (engine : Engine σ) (token : Token) : Prop where
  name : engine.hasMacro token.name = false
  steps : ∀ step ∈ token.steps, engine.hasModifier step.name = false

instance (engine : Engine σ) (token : Token) : Decidable (engine.Unknown token) :=
  decidable_of_iff
    (engine.hasMacro token.name = false ∧
      ∀ step ∈ token.steps, engine.hasModifier step.name = false)
    ⟨fun h => ⟨h.1, h.2⟩, fun h => ⟨h.name, h.steps⟩⟩

/-- What is done where a token passes through: the fallback is called once, and each entry of the
chain is warned of. -/
def passing (token : Token) : List Event :=
  .resolved .fallback { parameter := token.parameter, name := token.name, token := token.raw } ::
    token.steps.map fun step => .warned (.ofUnknownModifier token.raw step.name)

theorem warnings_passing (token : Token) :
    (passing token).filterMap Event.warning? =
      token.steps.map fun step => .ofUnknownModifier token.raw step.name := by
  rw [passing, List.filterMap_cons_none rfl, List.filterMap_map, ← List.filterMap_eq_map]
  rfl

section

variable {engine : Engine σ}

theorem run_applyStep_of_unknown (token : Token) (text : String) {step : Step}
    (h : engine.hasModifier step.name = false) (state : σ) :
    (applyStep engine token (.string text) step).run state =
      { result := .string text
        state
        events := [.warned (.ofUnknownModifier token.raw step.name)] } := by
  have hnull : (step.optional && (Value.string text).isNull) = false := Bool.and_false _
  have hnone : engine.modifiers.get? step.name = none := contains_eq_false_iff.1 h
  rw [applyStep, hnull, hnone]
  rfl

/-- A text is never null, so whether an entry is optional does not count. -/
theorem run_applySteps_of_unknown (token : Token) (text : String) {steps : List Step}
    (h : ∀ step ∈ steps, engine.hasModifier step.name = false) (state : σ) :
    (applySteps engine token (.string text) steps).run state =
      { result := .string text
        state
        events := steps.map fun step => .warned (.ofUnknownModifier token.raw step.name) } := by
  induction steps with
  | nil => rfl
  | cons step rest ih =>
    have hstep := run_applyStep_of_unknown token text (h step List.mem_cons_self) state
    have hrest := ih fun other hother => h other (List.mem_cons_of_mem step hother)
    simp only [applySteps, Session.run_bind, hstep, hrest, List.map_cons, List.singleton_append]

variable (hfallback : engine.fallback = .passthrough) (hfinal : engine.finalModifier = none)

include hfallback in
theorem run_callMacro_of_unknown {token : Token} (h : engine.hasMacro token.name = false)
    (state : σ) :
    (callMacro engine token).run state =
      { result := .string token.raw
        state
        events := [.resolved .fallback
          { parameter := token.parameter, name := token.name, token := token.raw }] } := by
  have hnone : engine.macros.get? token.name = none := contains_eq_false_iff.1 h
  rw [callMacro, macroFor, hnone, hfallback]
  rfl

include hfallback hfinal

theorem run_resolveToken_of_unknown {token : Token} (h : engine.Unknown token) (state : σ) :
    (resolveToken engine token).run state =
      { result := .string token.raw, state, events := passing token } := by
  have hlast : ∀ value, applyFinal engine token value = pure value := fun value => by
    rw [applyFinal, hfinal]
  simp only [resolveToken, hlast, Session.run_bind, Session.run_pure,
    run_callMacro_of_unknown hfallback h.name state,
    run_applySteps_of_unknown token token.raw h.steps, List.append_nil]
  rfl

theorem run_mapM_textOf_of_unknown {tokens : List Token}
    (h : ∀ token ∈ tokens, engine.Unknown token) (state : σ) :
    (tokens.mapM fun token => textOf (resolveToken engine token)).run state =
      { result := tokens.map Token.raw, state, events := tokens.flatMap passing } := by
  induction tokens with
  | nil => rfl
  | cons token rest ih =>
    simp only [List.mapM_cons, Session.run_bind, Session.run_pure, run_textOf,
      run_resolveToken_of_unknown hfallback hfinal (h token List.mem_cons_self),
      ih fun other hother => h other (List.mem_cons_of_mem token hother), List.append_nil]
    rfl

/-- A template of which the engine knows no token is given back. -/
theorem run_resolveText_of_unknown {template : String}
    (h : ∀ token ∈ Token.allIn template, engine.Unknown token) (state : σ) :
    (resolveText engine template).run state =
      { result := .string template, state, events := (Token.allIn template).flatMap passing } := by
  cases htoken : Token.ofText? template with
  | some token =>
    obtain ⟨hall, -⟩ := (Token.ofText?_eq_some_iff_allIn template token).1 htoken
    have hraw : token.raw = template := Token.raw_of_ofText? htoken
    have hunknown : engine.Unknown token := h token (hall ▸ List.mem_singleton_self token)
    rw [resolveText_of_whole engine htoken, run_resolveToken_of_unknown hfallback hfinal hunknown,
      hraw, hall, List.flatMap_singleton]
  | none =>
    have htexts := run_mapM_textOf_of_unknown hfallback hfinal h state
    simp only [textOf] at htexts
    rw [resolveText_of_not_whole engine htoken, embedText, Session.run_bind, htexts]
    simp only [Session.run_pure, Token.spliceText_raw, List.append_nil]

theorem turns_of_unknown {texts : List PlacedText}
    (h : ∀ token ∈ tokensIn texts, engine.Unknown token) (state : σ) :
    turns engine texts state = texts.map fun placed =>
      { result := .string placed.text
        state
        events := (Token.allIn placed.text).flatMap passing } := by
  induction texts with
  | nil => rfl
  | cons placed rest ih =>
    have hfirst : ∀ token ∈ Token.allIn placed.text, engine.Unknown token := fun token htoken =>
      h token (List.mem_append_left (tokensIn rest) htoken)
    have hrest : ∀ token ∈ tokensIn rest, engine.Unknown token := fun token htoken =>
      h token (List.mem_append_right (Token.allIn placed.text) htoken)
    rw [turns, run_resolveText_of_unknown hfallback hfinal hfirst, ih hrest, List.map_cons]

/-- A structure of which the engine knows no token is given back. -/
theorem run_resolveNode_of_unknown {node : Node} (h : ∀ token ∈ node.tokens, engine.Unknown token)
    (state : σ) :
    (resolveNode engine node).run state =
      { result := node, state, events := node.tokens.flatMap passing } := by
  rw [run_resolveNode, outcomeOf, turns_of_unknown hfallback hfinal h]
  congr 1
  · rw [List.map_map]
    exact Node.refill_ownValues node
  · refine stateAfter_of_forall fun turn hturn => ?_
    obtain ⟨placed, -, rfl⟩ := List.mem_map.1 hturn
    rfl
  · rw [List.flatMap_map]
    exact List.flatMap_assoc.symm

end

/-- Whatever the macros, the modifiers and the state of an engine that has the fallback which gives
back the token, and no final modifier.  A token of a template whose name is no macro of the engine
and whose chain names no modifier of the engine appears in the result as it is written, between what
the texts around it become, and leaves the state alone.  If it is the whole template, the result is
the template.  A structure in which all tokens are of that kind is given back in the same state, and
the warnings are one for each entry of each chain, in document order. -/
theorem resolveNode_unknown_exact (engine : Engine σ) (hfallback : engine.fallback = .passthrough)
    (hfinal : engine.finalModifier = none) (state : σ) :
    (∀ (template : String) (token : Token), token ∈ Token.allIn template → engine.Unknown token →
      ∃ before after : String, template = before ++ (token.raw ++ after) ∧
        token.start = before.utf8ByteSize ∧
        let left := (resolveText engine before).run state
        let right := (resolveText engine after).run left.state
        let whole := (resolveText engine template).run state
        whole.result.text = left.result.text ++ (token.raw ++ right.result.text) ∧
        whole.state = right.state) ∧
    (∀ (template : String) (token : Token), Token.ofText? template = some token →
      engine.Unknown token → ((resolveText engine template).run state).result = .string template) ∧
    (∀ node : Node, (∀ token ∈ node.tokens, engine.Unknown token) →
      let resolved := (resolveNode engine node).run state
      resolved.result = node ∧ resolved.state = state ∧
      resolved.warnings = node.tokens.flatMap fun token => token.steps.map fun step =>
        { kind := .modifierNotFound
          message := "modifier not found: " ++ step.name
          context := [("macro", token.raw), ("modifier", step.name)] }) := by
  refine ⟨?_, ?_, ?_⟩
  · intro template token htoken hunknown
    obtain ⟨before, after, rfl, hstart, hbefore, -⟩ := Token.exists_around htoken
    have hreads := (Token.leftmost_allIn _).reads token htoken
    refine ⟨before, after, rfl, hstart, ?_⟩
    intro left right whole
    have hwhole := congrArg (·.run state) (textOf_around engine hbefore hreads)
    simp only [run_followedBy, run_textOf,
      run_resolveToken_of_unknown hfallback hfinal hunknown] at hwhole
    obtain ⟨hresult, hstate, -⟩ := Outcome.mk.inj hwhole
    exact ⟨hresult, hstate⟩
  · intro template token htoken hunknown
    rw [resolveText_of_whole engine htoken, run_resolveToken_of_unknown hfallback hfinal hunknown,
      Token.raw_of_ofText? htoken]
  · intro node hunknown resolved
    have hresolved : resolved = { result := node, state, events := node.tokens.flatMap passing } :=
      run_resolveNode_of_unknown hfallback hfinal hunknown state
    rw [hresolved]
    refine ⟨rfl, rfl, ?_⟩
    rw [Outcome.warnings, List.filterMap_flatMap]
    simp only [warnings_passing]
    rfl

/-- Tokens with an unknown macro and unknown modifiers between braces and beside a macro that counts
its calls; by themselves; and in a list under a key that looks like a token of that macro. -/
theorem resolveNode_unknown_braces :
    let counting : Macro Counters :=
      (BuiltInMacro.computed (StockProducer.counter.produce 0) "int" "" .any).toMacro
    let engine : Engine Counters :=
      { macros := ⟨[("n", counting)], List.nodup_singleton _⟩
        modifiers := ⟨[("upper", BuiltInModifier.uppercase.toModifier)], List.nodup_singleton _⟩ }
    let node : Node := .map
      [("{{ n }}", .list [.scalar .null, .scalar (.string "{{{m :  p| b|?c}}}")]),
        ("k", .scalar (.string "{{ m }}"))]
    let warning (name : String) : Warning :=
      { kind := .modifierNotFound
        message := "modifier not found: " ++ name
        context := [("macro", "{{m :  p| b|?c}}"), ("modifier", name)] }
    let mixed := (resolveText engine "{{ n | upper }}{{{m :  p| b|?c}}}{{ n }}").run ⟨[4]⟩
    let whole := (resolveText engine "{{m :  p| b|?c}}").run ⟨[4]⟩
    let resolved := (resolveNode engine node).run ⟨[4]⟩
    (∃ before after : String, mixed.result.text = before ++ ("{{m :  p| b|?c}}" ++ after)) ∧
      whole.result = .string "{{m :  p| b|?c}}" ∧
      resolved.result = node ∧ resolved.state = ⟨[4]⟩ ∧
      resolved.warnings = [warning "b", warning "c"] := by
  intro counting engine node warning mixed whole resolved
  have hunknown : ∀ token ∈ node.tokens, engine.Unknown token := by
    decide +kernel
  obtain ⟨hembedded, hwhole, hnode⟩ := resolveNode_unknown_exact engine rfl rfl ⟨[4]⟩
  let token : Token := ⟨"{{m :  p| b|?c}}", "m", some "p", some "b|?c", 16, 32⟩
  have htoken : token ∈ Token.allIn "{{ n | upper }}{{{m :  p| b|?c}}}{{ n }}" := by
    decide +kernel
  have hreads : Token.ofText? "{{m :  p| b|?c}}" = some { token with start := 0, stop := 16 } := by
    decide +kernel
  obtain ⟨before, after, -, -, hmixed, -⟩ := hembedded _ token htoken (by decide +kernel)
  obtain ⟨hresult, hstate, hwarnings⟩ := hnode node hunknown
  refine ⟨⟨_, _, hmixed⟩, hwhole _ _ hreads (by decide +kernel), hresult, hstate, ?_⟩
  rw [hwarnings]
  decide +kernel

end Engine

end Placeholder
