import Placeholder.Proofs.Engine.Leaves
import Placeholder.Proofs.Engine.Registration
import Placeholder.Proofs.Engine.Verdict
import Placeholder.Proofs.Engine.WholeText
import Placeholder.Stock.Macros

/-!
# Engines that agree on a structure

Two engines are run on one structure.  Their states may be of different types, and a relation says
which states are alike.  If the engines have the same under the names that the structure mentions,
up to this relation, then nobody can tell them apart by the structure.

* `Session.Alike`: sessions that do the same in states that are alike, with a rule for each way of
  putting sessions together.
* `Engine.AgreeOn`: engines that agree on some names.  Each stage of the pipeline is alike in both
  (`resolveToken_alike`), and so are texts (`resolveText_alike`), the turns of a structure
  (`turns_alike`) and the structure (`resolveNode_alike`).
* Validating asks the same questions and finds the same errors in both
  (`run_validateNode_of_agree`).

Main statement: `resolveNode_agree_exact`.
-/

namespace Placeholder

variable {σ τ α β : Type}

/-- In states that are alike both actions give the same reply, and they leave states that are
alike. -/
def RepliesAlike (R : σ → τ → Prop) (action : σ → α × σ) (other : τ → α × τ) : Prop :=
  ∀ state state', R state state' →
    (action state).1 = (other state').1 ∧ R (action state).2 (other state').2

/-- The macros rule alike on parameters and give the same values. -/
structure Macro.Alike (R : σ → τ → Prop) (item : Macro σ) (other : Macro τ) : Prop where
  check : item.check = other.check
  resolve (call : Call) : RepliesAlike R (item.resolve call) (other.resolve call)

/-- The modifiers give the same values. -/
def Modifier.Alike (R : σ → τ → Prop) (item : Modifier σ) (other : Modifier τ) : Prop :=
  ∀ value, RepliesAlike R (item.transform value) (other.transform value)

/-! ## Sessions -/

/-- The results and all that is done are the same, and the states are alike. -/
structure Outcome.Alike (R : σ → τ → Prop) (outcome : Outcome σ α) (other : Outcome τ α) :
    Prop where
  result : outcome.result = other.result
  state : R outcome.state other.state
  events : outcome.events = other.events

/-- From states that are alike the sessions come to outcomes that are alike. -/
def Session.Alike (R : σ → τ → Prop) (session : Session σ α) (other : Session τ α) : Prop :=
  ∀ state state', R state state' → Outcome.Alike R (session.run state) (other.run state')

namespace Session.Alike

variable {R : σ → τ → Prop}

theorem pure (result : α) :
    Session.Alike R (pure result : Session σ α) (pure result : Session τ α) :=
  fun _ _ h => ⟨rfl, h, rfl⟩

theorem note (event : Event) : Session.Alike R (Session.note event) (Session.note event) :=
  fun _ _ h => ⟨rfl, h, rfl⟩

theorem call {action : σ → α × σ} {other : τ → α × τ} (event : Event)
    (h : RepliesAlike R action other) :
    Session.Alike R (Session.call event action) (Session.call event other) := by
  intro state state' hstate
  obtain ⟨hreply, hafter⟩ := h state state' hstate
  exact ⟨hreply, hafter, rfl⟩

theorem bind {first : Session σ α} {first' : Session τ α} {next : α → Session σ β}
    {next' : α → Session τ β} (hfirst : Session.Alike R first first')
    (hnext : ∀ result, Session.Alike R (next result) (next' result)) :
    Session.Alike R (first >>= next) (first' >>= next') := by
  intro state state' hstate
  have hbefore := hfirst state state' hstate
  have hafter := hnext (first.run state).result _ _ hbefore.state
  rw [Session.run_bind, Session.run_bind]
  simp only [← hbefore.result]
  exact ⟨hafter.result, hafter.state, by rw [hbefore.events, hafter.events]⟩

theorem mapM {f : α → Session σ β} {g : α → Session τ β} {items : List α}
    (h : ∀ item ∈ items, Session.Alike R (f item) (g item)) :
    Session.Alike R (items.mapM f) (items.mapM g) := by
  induction items with
  | nil => exact pure []
  | cons item rest ih =>
    rw [List.mapM_cons, List.mapM_cons]
    refine bind (h item List.mem_cons_self) fun result => ?_
    exact bind (ih fun other hother => h other (List.mem_cons_of_mem item hother))
      fun results => pure (result :: results)

/-- Sessions that are alike in every state are equal. -/
theorem eq {session other : Session σ α} (h : Session.Alike Eq session other) :
    session = other := by
  funext state
  obtain ⟨hresult, hstate, hevents⟩ := h state state rfl
  show session.run state = other.run state
  generalize session.run state = outcome at hresult hstate hevents
  generalize other.run state = outcome' at hresult hstate hevents
  cases outcome
  cases outcome'
  simp only at hresult hstate hevents
  rw [hresult, hstate, hevents]

end Session.Alike

namespace Engine

open Node (PlacedText)
open Outcome (stateAfter)

/-- The engines have the same defaults, and the same under each of some names of macros and some
names of modifiers, or both have nothing there. -/
structure AgreeOn (R : σ → τ → Prop) (macroNames modifierNames : List String)
    (engine : Engine σ) (other : Engine τ) : Prop where
  fallback : Macro.Alike R engine.fallback other.fallback
  final : Option.Rel (Modifier.Alike R) engine.finalModifier other.finalModifier
  macros : ∀ name ∈ macroNames,
    Option.Rel (Macro.Alike R) (engine.macros.get? name) (other.macros.get? name)
  modifiers : ∀ name ∈ modifierNames,
    Option.Rel (Modifier.Alike R) (engine.modifiers.get? name) (other.modifiers.get? name)

section Alike

variable {R : σ → τ → Prop} {engine : Engine σ} {other : Engine τ}
  {macroNames modifierNames : List String}

theorem AgreeOn.macroFor {name : String} (h : AgreeOn R macroNames modifierNames engine other)
    (hname : name ∈ macroNames) :
    (engine.macroFor name).1 = (other.macroFor name).1 ∧
      Macro.Alike R (engine.macroFor name).2 (other.macroFor name).2 := by
  have hrel := h.macros name hname
  unfold Engine.macroFor
  generalize engine.macros.get? name = found at hrel ⊢
  generalize other.macros.get? name = found' at hrel ⊢
  cases hrel with
  | none => exact ⟨rfl, h.fallback⟩
  | some hitem => exact ⟨rfl, hitem⟩

/-! ## The pipeline -/

theorem callMacro_alike {token : Token} (h : AgreeOn R macroNames modifierNames engine other)
    (hname : token.name ∈ macroNames) :
    Session.Alike R (callMacro engine token) (callMacro other token) := by
  obtain ⟨horigin, hitem⟩ := h.macroFor hname
  unfold callMacro
  simp only [horigin]
  refine (Session.Alike.call _ (hitem.resolve _)).bind fun reply => ?_
  cases reply with
  | ok value => exact .pure value
  | error error => exact (Session.Alike.note _).bind fun _ => .pure Value.null

theorem callModifier_alike {item : Modifier σ} {item' : Modifier τ} (token : Token)
    (origin : ModifierOrigin) (name : String) (value : Value) (h : Modifier.Alike R item item') :
    Session.Alike R (callModifier token origin name item value)
      (callModifier token origin name item' value) := by
  unfold callModifier
  refine (Session.Alike.call _ (h value)).bind fun reply => ?_
  cases reply with
  | ok value => exact .pure value
  | error error => exact (Session.Alike.note _).bind fun _ => .pure Value.null

theorem applyStep_alike {step : Step} (h : AgreeOn R macroNames modifierNames engine other)
    (token : Token) (value : Value) (hname : step.name ∈ modifierNames) :
    Session.Alike R (applyStep engine token value step) (applyStep other token value step) := by
  have hrel := h.modifiers step.name hname
  unfold applyStep
  by_cases hpassed : (step.optional && value.isNull) = true
  · rw [if_pos hpassed, if_pos hpassed]
    exact .pure value
  · rw [if_neg hpassed, if_neg hpassed]
    generalize engine.modifiers.get? step.name = found at hrel ⊢
    generalize other.modifiers.get? step.name = found' at hrel ⊢
    cases hrel with
    | none => exact (Session.Alike.note _).bind fun _ => .pure value
    | some hitem => exact callModifier_alike token _ _ value hitem

theorem applySteps_alike {steps : List Step} (h : AgreeOn R macroNames modifierNames engine other)
    (token : Token) (value : Value) (hnames : ∀ step ∈ steps, step.name ∈ modifierNames) :
    Session.Alike R (applySteps engine token value steps) (applySteps other token value steps) := by
  induction steps generalizing value with
  | nil => exact .pure value
  | cons step rest ih =>
    have hstep := applyStep_alike h token value (hnames step List.mem_cons_self)
    have hrest := fun next hnext => hnames next (List.mem_cons_of_mem step hnext)
    exact hstep.bind fun value => ih value hrest

theorem applyFinal_alike (h : AgreeOn R macroNames modifierNames engine other) (token : Token)
    (value : Value) :
    Session.Alike R (applyFinal engine token value) (applyFinal other token value) := by
  have hrel := h.final
  unfold applyFinal
  generalize engine.finalModifier = final at hrel ⊢
  generalize other.finalModifier = final' at hrel ⊢
  cases hrel with
  | none => exact .pure value
  | some hitem =>
    by_cases hstring : value.isString = true
    · simp only [if_pos hstring]
      exact callModifier_alike token _ _ value hitem
    · simp only [if_neg hstring]
      exact .pure value

theorem resolveToken_alike {token : Token} (h : AgreeOn R macroNames modifierNames engine other)
    (hname : token.name ∈ macroNames) (hnames : ∀ step ∈ token.steps, step.name ∈ modifierNames) :
    Session.Alike R (resolveToken engine token) (resolveToken other token) := by
  refine (callMacro_alike h hname).bind fun value => ?_
  refine (applySteps_alike h token value hnames).bind fun value => ?_
  exact applyFinal_alike h token value

/-! ## Texts and structures -/

theorem resolveText_alike {template : String}
    (h : ∀ token ∈ Token.allIn template,
      Session.Alike R (resolveToken engine token) (resolveToken other token)) :
    Session.Alike R (resolveText engine template) (resolveText other template) := by
  unfold resolveText
  cases hwhole : Token.ofText? template with
  | some token =>
    obtain ⟨hall, -⟩ := (Token.ofText?_eq_some_iff_allIn template token).1 hwhole
    refine h token ?_
    rw [hall]
    exact List.mem_singleton_self token
  | none =>
    rw [fillText_eq_embedText, fillText_eq_embedText]
    have htexts := Session.Alike.mapM fun token htoken =>
      (h token htoken).bind fun value => .pure value.text
    have hembedded := htexts.bind fun texts => .pure (Token.spliceText template texts)
    exact hembedded.bind fun text => .pure (Value.string text)

/-- Texts that are resolved one after the other give the same values, and the states after the last
of them are alike. -/
theorem turns_alike {texts : List PlacedText}
    (h : ∀ placed ∈ texts,
      Session.Alike R (resolveText engine placed.text) (resolveText other placed.text))
    {state : σ} {state' : τ} (hstate : R state state') :
    (turns engine texts state).map Outcome.result = (turns other texts state').map Outcome.result ∧
    R (stateAfter (turns engine texts state) state) (stateAfter (turns other texts state') state') ∧
    (turns engine texts state).flatMap Outcome.events =
      (turns other texts state').flatMap Outcome.events := by
  induction texts generalizing state state' with
  | nil => exact ⟨rfl, hstate, rfl⟩
  | cons placed rest ih =>
    -- The first turn leaves states that are alike, and from these the other turns start.
    have hturn := h placed List.mem_cons_self state state' hstate
    obtain ⟨hresults, hstates, hevents⟩ :=
      ih (fun next hnext => h next (List.mem_cons_of_mem placed hnext)) hturn.state
    simp only [turns, List.map_cons, List.flatMap_cons, stateAfter_cons, hturn.result,
      hturn.events, hresults, hevents]
    exact ⟨trivial, hstates, trivial⟩

variable {node : Node}

theorem resolveText_alike_of_mem (h : AgreeOn R node.macroNames node.modifierNames engine other)
    {placed : PlacedText} (hplaced : placed ∈ node.texts) :
    Session.Alike R (resolveText engine placed.text) (resolveText other placed.text) := by
  refine resolveText_alike fun token htoken => ?_
  have hmem := Node.mem_tokens hplaced htoken
  refine resolveToken_alike h (Node.name_mem_macroNames hmem) fun step hstep => ?_
  exact Node.name_mem_modifierNames hmem hstep

theorem resolveNode_alike (h : AgreeOn R node.macroNames node.modifierNames engine other) :
    Session.Alike R (resolveNode engine node) (resolveNode other node) := by
  intro state state' hstate
  obtain ⟨hresults, hstates, hevents⟩ :=
    turns_alike (fun placed hplaced => resolveText_alike_of_mem h hplaced) hstate
  rw [run_resolveNode, run_resolveNode]
  exact ⟨congrArg node.refill hresults, hstates, hevents⟩

/-! ## Validating -/

theorem refusal?_of_agree (h : AgreeOn R macroNames modifierNames engine other) {token : Token}
    (hname : token.name ∈ macroNames) (path : Path) :
    engine.refusal? path token = other.refusal? path token := by
  obtain ⟨-, hitem⟩ := h.macroFor hname
  rw [refusal?, refusal?, ← macroFor_snd, ← macroFor_snd, hitem.check]

theorem refusals_of_agree (h : AgreeOn R node.macroNames node.modifierNames engine other) :
    engine.refusals node = other.refusals node := by
  refine List.flatMap_congr fun placed hplaced => ?_
  refine List.filterMap_congr fun token htoken => ?_
  have hmem := Node.mem_tokens hplaced htoken
  exact refusal?_of_agree h (Node.name_mem_macroNames hmem) placed.path

theorem checkOf_of_agree (h : AgreeOn R macroNames modifierNames engine other) {token : Token}
    (hname : token.name ∈ macroNames) : engine.checkOf token = other.checkOf token := by
  obtain ⟨horigin, -⟩ := h.macroFor hname
  rw [checkOf, checkOf, horigin]

/-- Validating comes to the same in both engines, whatever their states. -/
theorem run_validateNode_of_agree (h : AgreeOn R node.macroNames node.modifierNames engine other)
    (required : List String) (state : σ) (state' : τ) :
    (validateNode engine node required).run state =
      { (validateNode other node required).run state' with state } := by
  have hevents : node.tokens.map engine.checkOf = node.tokens.map other.checkOf :=
    List.map_congr_left fun token htoken =>
      checkOf_of_agree h (Node.name_mem_macroNames htoken)
  rw [run_validateNode, run_validateNode, refusals_of_agree h, hevents]

end Alike

/-! ## Equal items -/

/-- The structure has a token with this name, or an entry of a chain with this name. -/
def Mentions (node : Node) : ItemKind × String → Prop
  | (.macros, name) => name ∈ node.macroNames
  | (.modifiers, name) => name ∈ node.modifierNames

/-- Engines with equal items under the names that a structure mentions agree on it, with equal
states. -/
theorem agreeOn_of_lookup {engine other : Engine σ} {node : Node}
    (hfallback : engine.fallback = other.fallback)
    (hfinal : engine.finalModifier = other.finalModifier)
    (hlookup : ∀ slot, Mentions node slot → engine.lookup slot = other.lookup slot) :
    AgreeOn Eq node.macroNames node.modifierNames engine other := by
  have hreplies : ∀ {α : Type} (action : σ → α × σ), RepliesAlike Eq action action := by
    intro α action state state' hstate
    rw [hstate]
    exact ⟨rfl, rfl⟩
  have hmacro : ∀ item : Macro σ, Macro.Alike Eq item item :=
    fun item => ⟨rfl, fun call => hreplies (item.resolve call)⟩
  have hmodifier : ∀ item : Modifier σ, Modifier.Alike Eq item item :=
    fun item value => hreplies (item.transform value)
  have hrel : ∀ {α : Type} {p : α → α → Prop}, (∀ item, p item item) →
      ∀ {found found' : Option α}, found = found' → Option.Rel p found found' := by
    intro α p hp found found' heq
    rw [heq]
    cases found' with
    | none => exact .none
    | some item => exact .some (hp item)
  refine ⟨?_, hrel hmodifier hfinal, fun name hname => ?_, fun name hname => ?_⟩
  · rw [hfallback]
    exact hmacro other.fallback
  · have hslot := hlookup (.macros, name) hname
    exact hrel hmacro (Option.map_injective Sum.inl_injective hslot)
  · have hslot := hlookup (.modifiers, name) hname
    exact hrel hmodifier (Option.map_injective Sum.inr_injective hslot)

/-- The engines do the same with a structure, in every state. -/
structure SameOn (node : Node) (engine other : Engine σ) : Prop where
  resolve : resolveNode engine node = resolveNode other node
  validate (required : List String) :
    validateNode engine node required = validateNode other node required

theorem SameOn.of_lookup {engine other : Engine σ} {node : Node}
    (hfallback : engine.fallback = other.fallback)
    (hfinal : engine.finalModifier = other.finalModifier)
    (hlookup : ∀ slot, Mentions node slot → engine.lookup slot = other.lookup slot) :
    SameOn node engine other := by
  have hagree := agreeOn_of_lookup hfallback hfinal hlookup
  refine ⟨(resolveNode_alike hagree).eq, fun required => ?_⟩
  funext state
  show (validateNode engine node required).run state = (validateNode other node required).run state
  rw [run_validateNode_of_agree hagree required state state, run_validateNode]

/-- An item that the structure does not mention makes no difference to it. -/
theorem SameOn.of_register {engine extended : Engine σ} {node : Node}
    {registration : Registration σ} (h : engine.register registration = (.ok (), extended))
    (hmentions : ¬ Mentions node registration.slot) : SameOn node engine extended := by
  have hregistered := Registered.of_register h
  refine .of_lookup hregistered.fallback.symm hregistered.final.symm fun slot hslot => ?_
  have hne : slot ≠ registration.slot := fun heq => hmentions (heq ▸ hslot)
  rw [hregistered.lookup, if_neg hne]

/-- Let two engines have the same defaults, and the same under each name that the structure
mentions, up to a relation between their states.  From states that are related, resolving gives the
same result with the same warnings and leaves states that are related; and whatever the states and
the names that are required, validating gives the same verdict.  In particular, engines over one
type of states with equal items under those names do the same; so does an engine with a further item
that the structure does not mention; and so do two engines to which the same items have been
registered, each in its own order. -/
theorem resolveNode_agree_exact (engine : Engine σ) (node : Node) :
    (∀ (other : Engine τ) (R : σ → τ → Prop),
      AgreeOn R node.macroNames node.modifierNames engine other →
      (∀ state state', R state state' →
        let resolved := (resolveNode engine node).run state
        let resolved' := (resolveNode other node).run state'
        resolved.result = resolved'.result ∧ resolved.warnings = resolved'.warnings ∧
        resolved.events = resolved'.events ∧ R resolved.state resolved'.state) ∧
      ∀ required state state',
        let validated := (validateNode engine node required).run state
        let validated' := (validateNode other node required).run state'
        validated.result = validated'.result ∧ validated.events = validated'.events) ∧
    (∀ other : Engine σ, engine.fallback = other.fallback →
      engine.finalModifier = other.finalModifier →
      (∀ slot, Mentions node slot → engine.lookup slot = other.lookup slot) →
      SameOn node engine other) ∧
    (∀ registration extended, engine.register registration = (.ok (), extended) →
      ¬ Mentions node registration.slot → SameOn node engine extended) ∧
    ∀ registrations others first, registrations.Perm others →
      engine.registerAll registrations = (.ok (), first) →
      ∃ second, engine.registerAll others = (.ok (), second) ∧ SameOn node first second := by
  refine ⟨fun other R hagree => ⟨?_, ?_⟩, ?_, ?_, ?_⟩
  · intro state state' hstate
    obtain ⟨hresult, hafter, hevents⟩ := resolveNode_alike hagree state state' hstate
    exact ⟨hresult, congrArg (List.filterMap Event.warning?) hevents, hevents, hafter⟩
  · intro required state state' validated validated'
    have hrun : validated = { validated' with state } :=
      run_validateNode_of_agree hagree required state state'
    rw [hrun]
    exact ⟨rfl, rfl⟩
  · intro other hfallback hfinal hlookup
    exact .of_lookup hfallback hfinal hlookup
  · intro registration extended hextended hmentions
    exact .of_register hextended hmentions
  · intro registrations others first hperm hfirst
    obtain ⟨second, hsecond, hsame⟩ := registerAll_perm hperm hfirst
    exact ⟨second, hsecond, .of_lookup hsame.fallback hsame.final fun slot _ => hsame.lookup slot⟩

/-- An engine whose macro counts its calls, and one with a further macro, registered before it, that
counts as well and for itself.  The structure has the further name in a chain, where it means a
modifier. -/
theorem resolveNode_agree_further :
    let counting (id : CounterId) : Macro Counters :=
      (BuiltInMacro.computed (StockProducer.counter.produce id) "int" "" .any).toMacro
    let engine : Engine Counters := { macros := ⟨[("n", counting 0)], by decide⟩ }
    let other : Engine Counters :=
      { macros := ⟨[("x", counting 1), ("n", counting 0)], by decide⟩ }
    let node : Node := .list
      [.scalar (.string "{{ n }}"), .scalar (.string "{{ n }} {{ y | x }}")]
    let R (counters counters' : Counters) : Prop :=
      ∃ n m, counters = ⟨[n]⟩ ∧ counters' = ⟨[n, m]⟩
    AgreeOn R node.macroNames node.modifierNames engine other ∧ R ⟨[3]⟩ ⟨[3, 8]⟩ ∧
      ((resolveNode engine node).run ⟨[3]⟩).result =
        ((resolveNode other node).run ⟨[3, 8]⟩).result := by
  intro counting engine other node R
  have hmacroNames : node.macroNames = ["n", "n", "y"] := by
    decide +kernel
  have hmodifierNames : node.modifierNames = ["x"] := by
    decide +kernel
  have hcounting : Macro.Alike R (counting 0) (counting 0) := by
    refine ⟨rfl, fun call state state' hstate => ?_⟩
    obtain ⟨n, m, rfl, rfl⟩ := hstate
    exact ⟨rfl, n + 1, m, rfl, rfl⟩
  have hagree : AgreeOn R node.macroNames node.modifierNames engine other := by
    rw [hmacroNames, hmodifierNames]
    refine ⟨⟨rfl, fun call state state' hstate => ⟨rfl, hstate⟩⟩, .none, ?_, ?_⟩
    · intro name hname
      simp only [List.mem_cons, List.not_mem_nil, or_false, or_self_left] at hname
      obtain rfl | rfl := hname
      · exact .some hcounting
      · exact .none
    · intro name hname
      obtain rfl := List.mem_singleton.1 hname
      exact .none
  have hstates : R ⟨[3]⟩ ⟨[3, 8]⟩ := ⟨3, 8, rfl, rfl⟩
  obtain ⟨hagreeing, -⟩ := @resolveNode_agree_exact Counters Counters engine node
  obtain ⟨hresult, -⟩ := (hagreeing other R hagree).1 ⟨[3]⟩ ⟨[3, 8]⟩ hstates
  exact ⟨hagree, hstates, hresult⟩

end Engine

end Placeholder
