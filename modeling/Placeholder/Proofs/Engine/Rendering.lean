import Placeholder.Proofs.Engine.Operations
import Placeholder.Proofs.Engine.Verdict
import Placeholder.Stock.Macros

/-!
# All or nothing

A template is rendered in three steps, of which the first may stop the other two.  `Outcome.Quiet`
says that a step leaves no trace: whoever looks at the state and the warnings afterwards cannot tell
that it has been taken.  Validating is quiet, whatever its verdict, so a template that is not
approved is not touched at all, and an approved one is resolved once and as if it had not been
validated before.

Main statement: `render_exact`.
-/

namespace Placeholder

variable {σ ν α : Type}

/-- No macro and no modifier has been called and nothing has been warned of; at most macros have
been asked about parameters.  The state is as it was. -/
structure Outcome.Quiet (outcome : Outcome σ α) (state : σ) : Prop where
  state : outcome.state = state
  asks : ∀ event ∈ outcome.events, ∃ origin name parameter,
    event = .checked origin name parameter

theorem Outcome.Quiet.warnings {outcome : Outcome σ α} {state : σ} (h : outcome.Quiet state) :
    outcome.warnings = [] := by
  rw [Outcome.warnings, List.filterMap_eq_nil_iff]
  intro event hevent
  obtain ⟨origin, name, parameter, rfl⟩ := h.asks event hevent
  rfl

/-- What is said of the events and the state does not depend on the result. -/
theorem Outcome.Quiet.map {β : Type} {outcome : Outcome σ α} {state : σ} (h : outcome.Quiet state)
    (result : β) : Outcome.Quiet { outcome with result } state :=
  ⟨h.state, h.asks⟩

namespace Engine

variable (engine : Engine σ)

theorem quiet_validateNode (node : Node) (required : List String) (state : σ) :
    ((validateNode engine node required).run state).Quiet state := by
  rw [run_validateNode]
  refine ⟨rfl, fun event hevent => ?_⟩
  obtain ⟨token, -, rfl⟩ := List.mem_map.1 hevent
  exact ⟨_, _, _, rfl⟩

theorem quiet_validateText (template : String) (required : List String) (state : σ) :
    ((validateText engine template required).run state).Quiet state :=
  quiet_validateNode engine (.scalar (.string template)) required state

section Render

variable {engine : Engine σ} {node : Node} {required : List String} {state : σ}
  (schema : Schema ν) (shape : Shape ν)

theorem run_render_of_error {errors : Errors}
    (h : ((validateNode engine node required).run state).result = .error errors) :
    (render engine schema shape node required).run state =
      { (validateNode engine node required).run state with
        result := .error (.invalid errors) } := by
  simp only [render, Session.run_bind, h, Session.run_pure, List.append_nil]

theorem run_render_of_ok {approval : Approval}
    (h : ((validateNode engine node required).run state).result = .ok approval) :
    (render engine schema shape node required).run state =
      let validated := (validateNode engine node required).run state
      let resolved := (resolveNode engine node).run state
      { result := (resolved.result.extract schema shape).mapError .unreadable
        state := resolved.state
        events := validated.events ++ resolved.events } := by
  have hstate := (quiet_validateNode engine node required state).state
  simp only [render, readNode, Session.run_bind, h, Session.run_pure, List.append_nil, hstate]

end Render

/-- Whatever the engine, its state, the structure, the names that are required and what is to be
read: validating a text or the structure and telling the documentation call nothing, warn of nothing
and leave the state as it is.  A structure that is not approved is rendered as exactly the errors of
its verdict, and that is all that happens.  An approved one is rendered as the data extracted from
the resolved structure, or as the error of the extraction; the state and the warnings are those of
resolving it once. -/
theorem render_exact (engine : Engine σ) (schema : Schema ν) (shape : Shape ν) (node : Node)
    (required : List String) (state : σ) :
    let validated := (validateNode engine node required).run state
    let resolved := (resolveNode engine node).run state
    let rendered := (render engine schema shape node required).run state
    (∀ template, ((validateText engine template required).run state).Quiet state) ∧
    validated.Quiet state ∧ validated.warnings = [] ∧
    ((perform (ν := ν) engine .documentation).run state).Quiet state ∧
    (∀ errors, validated.result = .error errors →
      rendered.result = .error (.invalid errors) ∧ rendered.Quiet state ∧ rendered.warnings = []) ∧
    (∀ approval, validated.result = .ok approval →
      rendered.result = (resolved.result.extract schema shape).mapError .unreadable ∧
      rendered.state = resolved.state ∧ rendered.warnings = resolved.warnings ∧
      rendered.events = validated.events ++ resolved.events) := by
  intro validated resolved rendered
  have hquiet : validated.Quiet state := quiet_validateNode engine node required state
  refine ⟨fun template => quiet_validateText engine template required state, hquiet,
    hquiet.warnings, ⟨rfl, fun _ hevent => absurd hevent List.not_mem_nil⟩, ?_, ?_⟩
  · intro errors herrors
    have hrendered : rendered = { validated with result := .error (.invalid errors) } :=
      run_render_of_error schema shape herrors
    have hall : rendered.Quiet state := by
      rw [hrendered]
      exact hquiet.map _
    refine ⟨?_, hall, hall.warnings⟩
    rw [hrendered]
  · intro approval happroval
    have hrendered : rendered =
        { result := (resolved.result.extract schema shape).mapError .unreadable
          state := resolved.state
          events := validated.events ++ resolved.events } :=
      run_render_of_ok schema shape happroval
    have hwarnings : (validated.events ++ resolved.events).filterMap Event.warning? =
        resolved.warnings := by
      have hnone : validated.events.filterMap Event.warning? = [] := hquiet.warnings
      rw [List.filterMap_append, hnone, List.nil_append]
      rfl
    rw [hrendered]
    exact ⟨rfl, rfl, hwarnings, rfl⟩

/-- A macro that counts its calls, in a list that is to be read as a list of strings.  With a name
required that no token has, it is not called; else it is called for each token, although the list
cannot be read. -/
theorem render_uncounted :
    let counting : Macro Counters :=
      (BuiltInMacro.computed (StockProducer.counter.produce 0) "int" "" .any).toMacro
    let engine : Engine Counters := { macros := ⟨[("n", counting)], List.nodup_singleton _⟩ }
    let node : Node := .list [.scalar (.string "{{ n }}"), .scalar (.string "{{ n | m }}")]
    let schema : Schema Empty := nofun
    let errors : Errors := ⟨⟨"required macro: m not found", []⟩, []⟩
    let refused := (render engine schema (.list .string) node ["n", "m"]).run ⟨[5]⟩
    let unreadable := (render engine schema (.list .string) node ["n"]).run ⟨[5]⟩
    ((validateNode engine node ["n", "m"]).run ⟨[5]⟩).result = .error errors ∧
    refused.result = .error (.invalid errors) ∧ refused.state = ⟨[5]⟩ ∧
    (∃ approval, ((validateNode engine node ["n"]).run ⟨[5]⟩).result = .ok approval) ∧
    unreadable.result.toOption.isNone ∧ unreadable.state = ⟨[7]⟩ ∧
    unreadable.warnings = [.ofUnknownModifier "{{ n | m }}" "m"] := by
  intro counting engine node schema errors refused unreadable
  have hnames : node.macroNames = ["n", "n"] := by
    decide +kernel
  have hnone : engine.refusals node = [] := by
    decide +kernel
  have hrefused : ((validateNode engine node ["n", "m"]).run ⟨[5]⟩).result = .error errors := by
    have hmissing : Ruling (engine.refusals node) node.macroNames (["n"] ++ "m" :: [])
        (.error errors) := by
      rw [hnames]
      exact .missing hnone rfl (by decide) (by decide)
    exact (ruling_validateNode engine node ["n", "m"] ⟨[5]⟩).unique hmissing
  have happroved : ∃ approval,
      ((validateNode engine node ["n"]).run ⟨[5]⟩).result = .ok approval := by
    refine (ruling_validateNode engine node ["n"] ⟨[5]⟩).isOk_iff.2 ⟨hnone, ?_⟩
    rw [hnames]
    decide
  obtain ⟨-, -, -, -, herror, -⟩ :=
    render_exact engine schema (.list .string) node ["n", "m"] ⟨[5]⟩
  obtain ⟨-, -, -, -, -, hok⟩ := render_exact engine schema (.list .string) node ["n"] ⟨[5]⟩
  obtain ⟨hresult, hquiet, -⟩ := herror errors hrefused
  obtain ⟨approval, happroval⟩ := happroved
  obtain ⟨hread, hstate, hwarnings, -⟩ := hok approval happroval
  refine ⟨hrefused, hresult, hquiet.state, ⟨approval, happroval⟩, ?_, ?_, ?_⟩
  · rw [hread]
    decide +kernel
  · rw [hstate]
    decide +kernel
  · rw [hwarnings]
    decide +kernel

end Engine

end Placeholder
