import Mathlib.Data.List.Nodup
import Placeholder.Engine.Resolve
import Placeholder.Proofs.Node.Children
import Placeholder.Proofs.Node.Refill
import Placeholder.Proofs.Node.Texts
import Placeholder.Stock.Macros

/-!
# Leaf by leaf

Resolving a structure told without a walk.  Its texts are resolved in document order, each in the
state that the one before has left (`turns`); the structure is refilled with their values, and what
is done is what is done in the turns (`run_resolveNode`).

Main statement: `resolveNode_leaves_exact`.
-/

namespace Placeholder

/-- The state that the last of some outcomes has left. -/
def Outcome.stateAfter {σ α : Type} (outcomes : List (Outcome σ α)) (state : σ) : σ :=
  match outcomes.getLast? with
  | some last => last.state
  | none => state

namespace Engine

open Node (PlacedText KeepsShape textsOfEntries textsOfItems refillEntries refillItems)
open Outcome (stateAfter)

variable {σ : Type}

/-- What resolving the texts comes to, one after the other, each in the state that the one before
has left. -/
def turns (engine : Engine σ) : List PlacedText → σ → List (Outcome σ Value)
  | [], _ => []
  | placed :: rest, state =>
    let turn := (resolveText engine placed.text).run state
    turn :: turns engine rest turn.state

section

variable (engine : Engine σ)

theorem stateAfter_cons (turn : Outcome σ Value) (rest : List (Outcome σ Value)) (state : σ) :
    stateAfter (turn :: rest) state = stateAfter rest turn.state := by
  unfold stateAfter
  cases rest with
  | nil => rfl
  | cons next last => rw [List.getLast?_cons_cons, List.getLast?_cons]

theorem stateAfter_append (first second : List (Outcome σ Value)) (state : σ) :
    stateAfter (first ++ second) state = stateAfter second (stateAfter first state) := by
  induction first generalizing state with
  | nil => rfl
  | cons turn rest ih => rw [List.cons_append, stateAfter_cons, stateAfter_cons, ih]

/-- Where each outcome leaves the state that they have begun in, so do all of them. -/
theorem stateAfter_of_forall {outcomes : List (Outcome σ Value)} {state : σ}
    (h : ∀ outcome ∈ outcomes, outcome.state = state) : stateAfter outcomes state = state := by
  unfold stateAfter
  split
  · next last hlast => exact h last (List.mem_of_getLast? hlast)
  · rfl

theorem length_turns (texts : List PlacedText) (state : σ) :
    (turns engine texts state).length = texts.length := by
  induction texts generalizing state with
  | nil => rfl
  | cons placed rest ih => rw [turns, List.length_cons, List.length_cons, ih]

theorem turns_append (first second : List PlacedText) (state : σ) :
    turns engine (first ++ second) state =
      turns engine first state ++
        turns engine second (stateAfter (turns engine first state) state) := by
  induction first generalizing state with
  | nil => rfl
  | cons placed rest ih =>
    rw [List.cons_append, turns, turns, stateAfter_cons, ih, List.cons_append]

/-- The way to a text does not count for what resolving it comes to. -/
theorem turns_map_inside (texts : List PlacedText) (segment : Segment) (state : σ) :
    turns engine (texts.map (·.inside segment)) state = turns engine texts state := by
  induction texts generalizing state with
  | nil => rfl
  | cons placed rest ih =>
    rw [List.map_cons, turns, turns, ih]
    rfl

/-- The outcome of putting together something from the values of texts that are resolved one after
the other. -/
def outcomeOf {α : Type} (assemble : List Value → α) (texts : List PlacedText) (state : σ) :
    Outcome σ α where
  result := assemble ((turns engine texts state).map Outcome.result)
  state := stateAfter (turns engine texts state) state
  events := (turns engine texts state).flatMap Outcome.events

/-- The texts of a child are resolved first and then those after it, and each takes its values. -/
theorem outcomeOf_inside_append {α β γ : Type} (texts rest : List PlacedText) (segment : Segment)
    (first : List Value → α) (second : List Value → β) (combine : α → β → γ) (state : σ) :
    let before := outcomeOf engine first texts state
    let after := outcomeOf engine second rest before.state
    outcomeOf engine
        (fun values =>
          combine (first (values.take texts.length)) (second (values.drop texts.length)))
        (texts.map (·.inside segment) ++ rest) state =
      { result := combine before.result after.result
        state := after.state
        events := before.events ++ after.events } := by
  intro before after
  have hlength : ((turns engine texts state).map Outcome.result).length = texts.length := by
    rw [List.length_map, length_turns]
  simp only [outcomeOf, turns_append, turns_map_inside, stateAfter_append, List.map_append,
    List.flatMap_append, List.take_left' hlength, List.drop_left' hlength, before, after]

mutual

theorem run_resolveNode : ∀ (node : Node) (state : σ),
    (resolveNode engine node).run state = outcomeOf engine node.refill node.texts state
  | .scalar v, state => by
    cases v with
    | string template =>
      simp only [resolveNode, Session.run_bind, Session.run_pure, outcomeOf, Node.texts, turns,
        Node.refill, stateAfter_cons, List.flatMap_cons, List.flatMap_nil, List.map_cons,
        List.headD_cons]
      rfl
    | integer | float | boolean | null => rfl
  | .map entries, state => by
    rw [resolveNode, Session.run_bind, run_resolveEntries entries]
    simp only [Session.run_pure, List.append_nil]
    rfl
  | .list items, state => by
    rw [resolveNode, Session.run_bind, run_resolveItems 0 items]
    simp only [Session.run_pure, List.append_nil]
    rfl

theorem run_resolveEntries : ∀ (entries : List (String × Node)) (state : σ),
    (resolveEntries engine entries).run state =
      outcomeOf engine (refillEntries entries) (textsOfEntries entries) state
  | [], _ => rfl
  | (key, child) :: rest, state => by
    rw [textsOfEntries]
    refine Eq.trans ?_ (outcomeOf_inside_append engine child.texts (textsOfEntries rest)
      (.key key) child.refill (refillEntries rest) (fun child rest => (key, child) :: rest)
      state).symm
    simp only [resolveEntries, Session.run_bind, Session.run_pure, List.append_nil,
      run_resolveNode child, run_resolveEntries rest]

theorem run_resolveItems : ∀ (position : Nat) (items : List Node) (state : σ),
    (resolveItems engine items).run state =
      outcomeOf engine (refillItems items) (textsOfItems position items) state
  | _, [], _ => rfl
  | position, item :: rest, state => by
    rw [textsOfItems]
    refine Eq.trans ?_ (outcomeOf_inside_append engine item.texts
      (textsOfItems (position + 1) rest) (.index position) item.refill (refillItems rest)
      (fun item rest => item :: rest) state).symm
    simp only [resolveItems, Session.run_bind, Session.run_pure, List.append_nil,
      run_resolveNode item, run_resolveItems (position + 1) rest]

end

end

/-- Whatever the engine, its state and the structure, what is found at a place after resolving is of
the same kind as before: a map with the same keys in the same order, a list of the same length, the
same leaf if it was no string, and a scalar leaf if it was one.  The texts are resolved one after
the other, each in the state that the one before has left, and nothing else is done.  In a structure
without repeated keys the texts are all string leaves, in document order, each leaf becomes the
value that its text is resolved to, and there are no repeated keys afterwards, so that collecting
the entries of a map again gives the same map. -/
theorem resolveNode_leaves_exact (engine : Engine σ) (node : Node) (state : σ) :
    let outcome := (resolveNode engine node).run state
    let leaves := turns engine node.texts state
    (∀ path, Option.Rel KeepsShape (node.follow? path) (outcome.result.follow? path)) ∧
    outcome.state = stateAfter leaves state ∧
    outcome.events = leaves.flatMap Outcome.events ∧
    outcome.warnings = leaves.flatMap Outcome.warnings ∧
    (node.Distinct →
      (∀ path text, ⟨path, text⟩ ∈ node.texts ↔
        node.follow? path = some (.scalar (.string text))) ∧
      (node.texts.Pairwise fun first second => node.Precedes first.path second.path) ∧
      List.Forall₂ (fun placed leaf =>
          outcome.result.follow? placed.path = some (.scalar leaf.result)) node.texts leaves ∧
      outcome.result.Distinct ∧
      ∀ path entries, outcome.result.follow? path = some (.map entries) →
        Node.ofEntries entries = .map entries) := by
  intro outcome leaves
  have houtcome : outcome = outcomeOf engine node.refill node.texts state :=
    run_resolveNode engine node state
  have hresult : outcome.result = node.refill (leaves.map Outcome.result) := by
    rw [houtcome]
    rfl
  have hevents : outcome.events = leaves.flatMap Outcome.events := by
    rw [houtcome]
    rfl
  refine ⟨fun path => ?_, ?_, hevents, ?_, fun hnode => ?_⟩
  · rw [hresult]
    exact Node.rel_keepsShape_refill node _ path
  · rw [houtcome]
    rfl
  · rw [Outcome.warnings, hevents, List.filterMap_flatMap]
    rfl
  · have hdistinct : outcome.result.Distinct := by
      rw [hresult]
      exact Node.distinct_refill hnode _
    have hlength : (leaves.map Outcome.result).length = node.texts.length := by
      rw [List.length_map]
      exact length_turns engine node.texts state
    refine ⟨Node.mem_texts_iff hnode, Node.pairwise_texts hnode, ?_, hdistinct, ?_⟩
    · have hfound := Node.forall₂_follow?_refill hnode hlength
      rw [← hresult] at hfound
      have hleaves : List.Forall₂ (fun placed leaf =>
          outcome.result.FoundAt placed leaf.result) node.texts leaves :=
        List.forall₂_map_right_iff.1 hfound
      exact hleaves
    · intro path entries hentries
      have hmap := Node.distinct_of_follow? hdistinct hentries
      rw [Node.ofEntries, Entries.ofList_eq_self hmap.1]

/-- A macro that counts its calls, in a list and after it, and a key that looks like its token. -/
theorem resolveNode_leaves_counter :
    let counting : Macro Counters :=
      (BuiltInMacro.computed (StockProducer.counter.produce 0) "int" "" .any).toMacro
    let engine : Engine Counters := { macros := ⟨[("n", counting)], List.nodup_singleton _⟩ }
    let node : Node := .map
      [("{{ n }}", .list [.scalar (.integer 7), .scalar (.string "{{ n }}")]),
        ("k", .scalar (.string "no. {{ n }}"))]
    let texts : List PlacedText :=
      [⟨[.key "{{ n }}", .index 1], "{{ n }}"⟩, ⟨[.key "k"], "no. {{ n }}"⟩]
    let values : List Value := [.integer 4, .string "no. 5"]
    let outcome := (resolveNode engine node).run ⟨[4]⟩
    node.Distinct ∧
      List.Forall₂ (fun placed value => outcome.result.follow? placed.path = some (.scalar value))
        texts values := by
  intro counting engine node texts values outcome
  have hnode : node.Distinct := by
    decide
  have htexts : node.texts = texts := by
    decide
  have hvalues : (turns engine node.texts ⟨[4]⟩).map Outcome.result = values := by
    decide +kernel
  obtain ⟨-, -, -, -, hplaces⟩ := resolveNode_leaves_exact engine node ⟨[4]⟩
  obtain ⟨-, -, hleaves, -⟩ := hplaces hnode
  rw [← htexts, ← hvalues]
  exact ⟨hnode, List.forall₂_map_right_iff.2 hleaves⟩

end Engine

end Placeholder
