import Placeholder.Proofs.Engine.Agreement
import Placeholder.Proofs.Engine.Operations
import Placeholder.Proofs.Engine.Pipeline
import Placeholder.Proofs.Engine.Refusals
import Placeholder.Proofs.FirstOccurrences
import Placeholder.Stock.Macros
import Placeholder.Stock.Modifiers

/-!
# Attempts to register items

What an engine has at any point of its use, told from the attempts to register items up to there and
from nothing else: the first item for each name of each kind, and the names in the order in which
they came first.

* Registering gives the engine back beside the verdict.  A refusal leaves it as it was
  (`register_of_isSome_lookup`).
* `Registry.LeftBy` says so of one registry.  An attempt keeps it, whether it is taken or refused
  (`Registry.LeftBy.attempt`).
* `Engine.LeftBy` says so of the two registries of an engine, each with the attempts of its kind.
  An operation keeps it (`leftBy_perform`), and so does a run (`leftBy_performAll`).
* `Engine.Shows` lists what the engine tells and does by name.  All of it follows from the attempts
  (`LeftBy.shows`).

Main statement: `performAll_attempts_exact`.
-/

namespace Placeholder

/-! ## One registry -/

namespace Registry

variable {α β : Type} {registry : Registry α} {attempts : List (String × α)}

/-- The registry after an attempt to register an item. -/
def attempt (registry : Registry α) (name : String) (item : α) : Registry α :=
  (registry.register name item).2

/-- The registry holds what attempts to register items have left: under each name the first item
for it, and the names in the order in which they came first. -/
structure LeftBy (registry : Registry α) (attempts : List (String × α)) : Prop where
  get? (name : String) : registry.get? name = attempts.lookup name
  names : ListsOnce (attempts.map Prod.fst) registry.names

theorem LeftBy.empty : (Registry.empty : Registry α).LeftBy [] where
  get? _ := rfl
  names := ListsOnce.nil

theorem isSome_get?_iff {name : String} : (registry.get? name).isSome ↔ name ∈ registry.names := by
  rw [Option.isSome_iff_ne_none, ne_eq, Registry.get?, Entries.get?_eq_none_iff, not_not]
  rfl

theorem register_of_mem {name : String} (h : name ∈ registry.names) (item : α) :
    registry.register name item = (false, registry) :=
  register_of_contains (List.contains_iff_mem.2 h) item

theorem attempt_of_mem {name : String} (h : name ∈ registry.names) (item : α) :
    registry.attempt name item = registry := by
  rw [attempt, register_of_mem h item]

theorem entries_attempt_of_notMem {name : String} (h : name ∉ registry.names) (item : α) :
    (registry.attempt name item).entries = Entries.insert registry.entries name item := by
  have hfree : registry.contains name = false :=
    Bool.eq_false_iff.2 fun hc => h (List.contains_iff_mem.1 hc)
  rw [attempt, register_of_contains_eq_false hfree]

theorem names_attempt (registry : Registry α) (name : String) (item : α) :
    (registry.attempt name item).names =
      if name ∈ registry.names then registry.names else registry.names ++ [name] := by
  by_cases hname : name ∈ registry.names
  · rw [attempt_of_mem hname, if_pos hname]
  · rw [names, entries_attempt_of_notMem hname, Entries.keys_insert]
    rfl

theorem get?_attempt (registry : Registry α) (name : String) (item : α) (other : String) :
    (registry.attempt name item).get? other =
      (registry.get? other).or (if other = name then some item else none) := by
  by_cases hname : name ∈ registry.names
  · rw [attempt_of_mem hname]
    by_cases hother : other = name
    · obtain ⟨found, hfound⟩ := Option.isSome_iff_exists.1 (isSome_get?_iff.2 hname)
      rw [hother, hfound, Option.some_or]
    · rw [if_neg hother, Option.or_none]
  · rw [Registry.get?, entries_attempt_of_notMem hname, Entries.get?_insert]
    by_cases hother : other = name
    · have hnone : registry.get? other = none := Entries.get?_eq_none_iff.2 (hother ▸ hname)
      rw [if_pos hother, if_pos hother, hnone, Option.none_or]
    · rw [if_neg hother, if_neg hother, Option.or_none]
      rfl

/-- One more attempt, whether it is taken or refused. -/
theorem LeftBy.attempt (h : registry.LeftBy attempts) (name : String) (item : α) :
    (registry.attempt name item).LeftBy (attempts ++ [(name, item)]) where
  get? other := by
    rw [get?_attempt, List.lookup_append, h.get?, List.lookup_cons]
    by_cases hother : other = name
    · simp [hother]
    · have hne : (other == name) = false := beq_eq_false_iff_ne.2 hother
      rw [if_neg hother, hne]
      rfl
  names := by
    rw [names_attempt, List.map_append, List.map_singleton]
    exact h.names.concat name

theorem contains_eq (registry : Registry α) (name : String) :
    registry.contains name = (registry.get? name).isSome := by
  rw [Bool.eq_iff_iff, isSome_get?_iff]
  exact List.contains_iff_mem

/-- The entries in order are the names in order, each with its item. -/
theorem map_entries (registry : Registry α) (f : String → α → β) :
    (registry.entries.map fun (name, item) => f name item) =
      registry.names.filterMap fun name => (registry.get? name).map (f name) := by
  rw [names, Entries.keys, List.filterMap_map, ← List.filterMap_eq_map]
  refine List.filterMap_congr fun entry hentry => ?_
  obtain ⟨name, item⟩ := entry
  have hget : registry.get? name = some item := Entries.get?_of_mem registry.distinct hentry
  simp only [Function.comp_apply, hget, Option.map_some]

/-- The first entry that is described with a name describes the item under the name. -/
theorem find?_map_entries (registry : Registry α) {f : String → α → β} {nameOf : β → String}
    (hname : ∀ name item, nameOf (f name item) = name) (name : String) :
    (registry.entries.map fun (name, item) => f name item).find?
        (fun entry => nameOf entry = name) =
      (registry.get? name).map (f name) := by
  rw [Registry.get?]
  induction registry.entries with
  | nil => rfl
  | cons entry rest ih =>
    obtain ⟨other, item⟩ := entry
    rw [List.map_cons, List.find?_cons, Entries.get?_cons, hname]
    by_cases hother : other = name
    · simp [hother]
    · simp only [hother, decide_false, ih, Ne.symm hother, if_false]

end Registry

/-! ## Two registries -/

/-- The refusal of an attempt: its place is taken. -/
def Registration.refusal {σ : Type} (registration : Registration σ) : DuplicateName :=
  ⟨registration.slot.1, registration.slot.2⟩

theorem Registration.message_refusal {σ : Type} (registration : Registration σ) :
    registration.refusal.message =
      match registration.item with
      | .inl _ => "duplicate macro name: " ++ registration.name
      | .inr _ => "duplicate modifier name: " ++ registration.name := by
  obtain ⟨name, item⟩ := registration
  cases item <;> rfl

namespace Engine

variable {σ ν : Type}

/-- The attempts to register macros. -/
def macroAttempts (attempts : List (Registration σ)) : List (String × Macro σ) :=
  attempts.filterMap fun attempt => attempt.item.getLeft?.map (attempt.name, ·)

/-- The attempts to register modifiers. -/
def modifierAttempts (attempts : List (Registration σ)) : List (String × Modifier σ) :=
  attempts.filterMap fun attempt => attempt.item.getRight?.map (attempt.name, ·)

/-- The first macro that was to be registered under a name. -/
def firstMacro (attempts : List (Registration σ)) (name : String) : Option (Macro σ) :=
  (macroAttempts attempts).lookup name

/-- The first modifier that was to be registered under a name. -/
def firstModifier (attempts : List (Registration σ)) (name : String) : Option (Modifier σ) :=
  (modifierAttempts attempts).lookup name

/-- The engine has these defaults, and its registries hold what attempts to register items have
left, each what the attempts of its kind have. -/
structure LeftBy (engine : Engine σ) (fallback : Macro σ) (final : Option (Modifier σ))
    (attempts : List (Registration σ)) : Prop where
  macros : engine.macros.LeftBy (macroAttempts attempts)
  modifiers : engine.modifiers.LeftBy (modifierAttempts attempts)
  fallback : engine.fallback = fallback
  final : engine.finalModifier = final

/-- The engine after an attempt to register an item. -/
def attempt (engine : Engine σ) (registration : Registration σ) : Engine σ :=
  (engine.register registration).2

/-- Where there is an item, an attempt is refused, and it leaves the engine as it was. -/
theorem register_of_isSome_lookup {engine : Engine σ} {registration : Registration σ}
    (h : (engine.lookup registration.slot).isSome) :
    engine.register registration = (.error registration.refusal, engine) := by
  obtain ⟨name, item⟩ := registration
  cases item with
  | inl item =>
    rw [Registration.slot, lookup_macros, Option.isSome_map, Registry.isSome_get?_iff] at h
    change engine.addMacro name item = _
    rw [addMacro, Registry.register_of_mem h]
    rfl
  | inr item =>
    rw [Registration.slot, lookup_modifiers, Option.isSome_map, Registry.isSome_get?_iff] at h
    change engine.addModifier name item = _
    rw [addModifier, Registry.register_of_mem h]
    rfl

/-- Where there is none, it is taken. -/
theorem register_of_lookup_eq_none {engine : Engine σ} {registration : Registration σ}
    (h : engine.lookup registration.slot = none) :
    engine.register registration = (.ok (), engine.attempt registration) := by
  obtain ⟨next, hnext⟩ := register_of_free h
  rw [attempt, hnext]

section LeftBy

variable {engine : Engine σ} {fallback : Macro σ} {final : Option (Modifier σ)}
  {attempts : List (Registration σ)}

theorem LeftBy.fresh (fallback : Macro σ) (final : Option (Modifier σ)) :
    LeftBy { fallback, finalModifier := final } fallback final [] where
  macros := .empty
  modifiers := .empty
  fallback := rfl
  final := rfl

theorem LeftBy.attempt (h : LeftBy engine fallback final attempts)
    (registration : Registration σ) :
    LeftBy (engine.attempt registration) fallback final (attempts ++ [registration]) := by
  obtain ⟨name, item⟩ := registration
  cases item with
  | inl item =>
    refine ⟨?_, ?_, h.fallback, h.final⟩
    · rw [macroAttempts, List.filterMap_append]
      exact h.macros.attempt name item
    · rw [modifierAttempts, List.filterMap_append]
      change engine.modifiers.LeftBy (modifierAttempts attempts ++ [])
      rw [List.append_nil]
      exact h.modifiers
  | inr item =>
    refine ⟨?_, ?_, h.fallback, h.final⟩
    · rw [macroAttempts, List.filterMap_append]
      change engine.macros.LeftBy (macroAttempts attempts ++ [])
      rw [List.append_nil]
      exact h.macros
    · rw [modifierAttempts, List.filterMap_append]
      exact h.modifiers.attempt name item

theorem mem_macroAttempts_iff {name : String} :
    name ∈ (macroAttempts attempts).map Prod.fst ↔
      ∃ earlier ∈ attempts, earlier.slot = (.macros, name) := by
  simp only [macroAttempts, List.map_filterMap, List.mem_filterMap]
  refine exists_congr fun earlier => and_congr_right fun _ => ?_
  obtain ⟨other, item⟩ := earlier
  cases item <;> simp [Registration.slot]

theorem mem_modifierAttempts_iff {name : String} :
    name ∈ (modifierAttempts attempts).map Prod.fst ↔
      ∃ earlier ∈ attempts, earlier.slot = (.modifiers, name) := by
  simp only [modifierAttempts, List.map_filterMap, List.mem_filterMap]
  refine exists_congr fun earlier => and_congr_right fun _ => ?_
  obtain ⟨other, item⟩ := earlier
  cases item <;> simp [Registration.slot]

/-- There is an item at a place if and only if one of the attempts was for the place. -/
theorem LeftBy.isSome_lookup_iff (h : LeftBy engine fallback final attempts)
    (slot : ItemKind × String) :
    (engine.lookup slot).isSome ↔ ∃ earlier ∈ attempts, earlier.slot = slot := by
  obtain ⟨kind, name⟩ := slot
  cases kind with
  | macros =>
    rw [lookup_macros, Option.isSome_map, Registry.isSome_get?_iff, h.macros.names.mem_iff,
      mem_macroAttempts_iff]
  | modifiers =>
    rw [lookup_modifiers, Option.isSome_map, Registry.isSome_get?_iff, h.modifiers.names.mem_iff,
      mem_modifierAttempts_iff]

theorem perform_of_isSome_lookup {registration : Registration σ}
    (h : (engine.lookup registration.slot).isSome) :
    perform (ν := ν) engine (.register registration) =
      pure (.refused registration.refusal, engine) := by
  rw [perform, register_of_isSome_lookup h]
  rfl

theorem perform_of_lookup_eq_none {registration : Registration σ}
    (h : engine.lookup registration.slot = none) :
    perform (ν := ν) engine (.register registration) =
      pure (.registered, engine.attempt registration) := by
  rw [perform, register_of_lookup_eq_none h]
  rfl

theorem leftBy_perform (h : LeftBy engine fallback final attempts) (operation : Operation σ ν)
    (state : σ) :
    LeftBy ((perform engine operation).run state).result.2 fallback final
      (attempts ++ operation.attempt?.toList) := by
  cases hattempt : operation.attempt? with
  | none =>
    rw [engine_perform engine hattempt, Option.toList_none, List.append_nil]
    exact h
  | some registration =>
    obtain rfl : operation = .register registration := by
      cases operation <;> simp_all [Operation.attempt?]
    exact h.attempt registration

theorem leftBy_performAll (h : LeftBy engine fallback final attempts)
    (operations : List (Operation σ ν)) (state : σ) :
    LeftBy ((performAll engine operations).run state).result.2 fallback final
      (attempts ++ operations.filterMap Operation.attempt?) := by
  induction operations generalizing engine attempts state with
  | nil =>
    rw [List.filterMap_nil, List.append_nil]
    exact h
  | cons operation rest ih =>
    have hrest := ih (leftBy_perform h operation state) ((perform engine operation).run state).state
    have hattempts : attempts ++ (operation :: rest).filterMap Operation.attempt? =
        attempts ++ operation.attempt?.toList ++ rest.filterMap Operation.attempt? := by
      cases hattempt : operation.attempt? <;> simp [hattempt]
    rw [hattempts]
    exact hrest

end LeftBy

/-! ## What the engine shows -/

/-- What the engine tells and does by name agrees on one map from names to macros and one from names
to modifiers. -/
structure Shows (engine : Engine σ) (fallback : Macro σ) (final : Option (Modifier σ))
    (macroAt : String → Option (Macro σ)) (modifierAt : String → Option (Modifier σ)) :
    Prop where
  hasMacro (name : String) : engine.hasMacro name = (macroAt name).isSome
  hasModifier (name : String) : engine.hasModifier name = (modifierAt name).isSome
  /-- The entries of the documentation are for the names, in their order and each once. -/
  macroDocs : engine.documentation.macros.map MacroEntry.name = engine.macroNames ∧
    engine.documentation.macros =
      engine.macroNames.filterMap fun name => (macroAt name).map (.describe name)
  modifierDocs : engine.documentation.modifiers.map ModifierEntry.name = engine.modifierNames ∧
    engine.documentation.modifiers =
      engine.modifierNames.filterMap fun name => (modifierAt name).map (.describe name)
  macroEntry? (name : String) :
    engine.documentation.macroEntry? name = (macroAt name).map (.describe name)
  modifierEntry? (name : String) :
    engine.documentation.modifierEntry? name = (modifierAt name).map (.describe name)
  /-- Validating asks the macro under the token's name, or else the fallback. -/
  checks (token : Token) (state : σ) :
    ((checkToken engine token).run state).result.errors =
      match ((macroAt token.name).getD fallback).check token.parameter with
      | .ok () => []
      | .error error => [{ error with path := [.key token.name] }]
  /-- Resolving calls the macro under the token's name, or else the fallback. -/
  calls (token : Token) (state : σ) :
    match macroAt token.name with
    | some item => MacroCalled token .registered item state ((callMacro engine token).run state)
    | none => MacroCalled token .fallback fallback state ((callMacro engine token).run state)
  /-- A chain entry whose turn it is calls the modifier under its name, or warns that there is
  none. -/
  applies (token : Token) (step : Step) (value : Value) (state : σ) :
    (step.optional && value.isNull) = false →
    match modifierAt step.name with
    | some item =>
      ModifierCalled token (.registered step.name) step.name item value state
        ((applyStep engine token value step).run state)
    | none =>
      (applyStep engine token value step).run state =
        { result := value, state, events := [.warned (.ofUnknownModifier token.raw step.name)] }
  /-- A structure is resolved and validated as in any engine with these defaults and maps. -/
  same (other : Engine σ) (node : Node) :
    other.fallback = fallback → other.finalModifier = final →
    (∀ name, other.macros.get? name = macroAt name) →
    (∀ name, other.modifiers.get? name = modifierAt name) → SameOn node engine other

section Views

variable {engine : Engine σ} {fallback : Macro σ} {final : Option (Modifier σ)}
  {attempts : List (Registration σ)}

theorem LeftBy.get?_macros (h : LeftBy engine fallback final attempts) (name : String) :
    engine.macros.get? name = firstMacro attempts name :=
  h.macros.get? name

theorem LeftBy.get?_modifiers (h : LeftBy engine fallback final attempts) (name : String) :
    engine.modifiers.get? name = firstModifier attempts name :=
  h.modifiers.get? name

theorem LeftBy.shows (h : LeftBy engine fallback final attempts) :
    Shows engine fallback final (firstMacro attempts) (firstModifier attempts) where
  hasMacro name := by
    rw [← h.get?_macros]
    exact engine.macros.contains_eq name
  hasModifier name := by
    rw [← h.get?_modifiers]
    exact engine.modifiers.contains_eq name
  macroDocs := by
    simp only [← h.get?_macros]
    exact ⟨List.map_map.trans rfl, engine.macros.map_entries MacroEntry.describe⟩
  modifierDocs := by
    simp only [← h.get?_modifiers]
    exact ⟨List.map_map.trans rfl, engine.modifiers.map_entries ModifierEntry.describe⟩
  macroEntry? name := by
    rw [← h.get?_macros]
    exact engine.macros.find?_map_entries (fun _ _ => rfl) name
  modifierEntry? name := by
    rw [← h.get?_modifiers]
    exact engine.modifiers.find?_map_entries (fun _ _ => rfl) name
  checks token state := by
    rw [← h.get?_macros, ← h.fallback, errors_checkToken, refusal?]
    cases ((engine.macros.get? token.name).getD engine.fallback).check token.parameter <;> rfl
  calls token state := by
    rw [← h.get?_macros, ← h.fallback]
    cases hitem : engine.macros.get? token.name with
    | some item => exact callMacro_of_macroFor engine token (by rw [macroFor, hitem]) state
    | none => exact callMacro_of_macroFor engine token (by rw [macroFor, hitem]) state
  applies token step value state hdue := by
    rw [← h.get?_modifiers, applyStep, hdue]
    cases hitem : engine.modifiers.get? step.name with
    | some item => exact callModifier_run token _ _ item value state
    | none => rfl
  same other node hfallback hfinal hmacros hmodifiers := by
    refine .of_lookup (h.fallback.trans hfallback.symm) (h.final.trans hfinal.symm) ?_
    rintro ⟨kind, name⟩ -
    cases kind with
    | macros => rw [lookup_macros, lookup_macros, h.get?_macros, hmacros]
    | modifiers => rw [lookup_modifiers, lookup_modifiers, h.get?_modifiers, hmodifiers]

end Views

/-- Whatever the defaults of an engine, its state and what is done with it, registering and anything
else in any order: at every point its names are those of the attempts up to there, each once and as
they came first, and all that it tells and does by name agrees on the first item for each name,
where macros and modifiers have names of their own.  An attempt is refused if and only if an earlier
one of its kind was for its name.  Then the refusal says so, and apart from it every answer, before
and after, is the one that is given without the attempt, and so are the engine, the state and all
that is done in the end. -/
theorem performAll_attempts_exact (fallback : Macro σ) (final : Option (Modifier σ))
    (before after : List (Operation σ ν)) (registration : Registration σ) (state : σ) :
    let fresh : Engine σ := { fallback, finalModifier := final }
    let attempts := before.filterMap Operation.attempt?
    let engine := ((performAll fresh before).run state).result.2
    let whole := (performAll fresh (before ++ .register registration :: after)).run state
    let without := (performAll fresh (before ++ after)).run state
    ListsOnce ((macroAttempts attempts).map Prod.fst) engine.macroNames ∧
    ListsOnce ((modifierAttempts attempts).map Prod.fst) engine.modifierNames ∧
    Shows engine fallback final (firstMacro attempts) (firstModifier attempts) ∧
    ((∃ refusal, whole.result.1[before.length]? = some (.refused refusal)) ↔
      ∃ earlier ∈ attempts, earlier.slot = registration.slot) ∧
    ∀ refusal, whole.result.1[before.length]? = some (.refused refusal) →
      refusal.message =
        (match registration.item with
          | .inl _ => "duplicate macro name: " ++ registration.name
          | .inr _ => "duplicate modifier name: " ++ registration.name) ∧
      whole =
        { without with
          result := (without.result.1.take before.length ++
            .refused refusal :: without.result.1.drop before.length, without.result.2) } := by
  intro fresh attempts engine whole without
  have hleft : LeftBy engine fallback final attempts :=
    leftBy_performAll (.fresh fallback final) before state
  have hlength : ((performAll fresh before).run state).result.1.length = before.length :=
    length_performAll fresh before state
  refine ⟨hleft.macros.names, hleft.modifiers.names, hleft.shows, ?_⟩
  rw [← hleft.isSome_lookup_iff]
  have hanswer : whole.result.1[before.length]? =
      some ((perform engine (.register registration)).run
        ((performAll fresh before).run state).state).result.1 :=
    getElem?_performAll fresh before after (.register registration) state
  by_cases htaken : (engine.lookup registration.slot).isSome
  · have hwhole : whole =
        { without with
          result := (without.result.1.take before.length ++
            .refused registration.refusal :: without.result.1.drop before.length,
            without.result.2) } := by
      simp only [whole, without, run_performAll_append, run_performAll_cons]
      rw [perform_of_isSome_lookup htaken, List.take_left' hlength, List.drop_left' hlength]
      rfl
    have hrefused : whole.result.1[before.length]? = some (.refused registration.refusal) := by
      rw [perform_of_isSome_lookup htaken] at hanswer
      exact hanswer
    refine ⟨⟨fun _ => htaken, fun _ => ⟨_, hrefused⟩⟩, fun refusal hrefusal => ?_⟩
    obtain rfl : registration.refusal = refusal :=
      Answer.refused.inj (Option.some.inj (hrefused.symm.trans hrefusal))
    exact ⟨registration.message_refusal, hwhole⟩
  · have hfree : engine.lookup registration.slot = none := Option.not_isSome_iff_eq_none.1 htaken
    have hregistered : whole.result.1[before.length]? = some .registered := by
      rw [perform_of_lookup_eq_none hfree] at hanswer
      exact hanswer
    simp [hregistered, htaken]

/-- A name that is used for a macro and for a modifier, and then for a second macro, which would
count its calls.  The engine is asked for the name before and after. -/
theorem performAll_attempts_again :
    let fruit : Macro Counters := (BuiltInMacro.constant (.string "orange") "string" "").toMacro
    let counting : Macro Counters :=
      (BuiltInMacro.computed (StockProducer.counter.produce 0) "int" "" .any).toMacro
    let before : List (Operation Counters Unit) :=
      [.register ⟨"a", .inl fruit⟩, .resolveText "{{ a | a }}",
        .register ⟨"a", .inr BuiltInModifier.uppercase.toModifier⟩]
    let after : List (Operation Counters Unit) := [.resolveText "{{ a | a }}", .documentation]
    let whole := (performAll ({} : Engine Counters)
      (before ++ .register ⟨"a", .inl counting⟩ :: after)).run ⟨[0]⟩
    let without := (performAll ({} : Engine Counters) (before ++ after)).run ⟨[0]⟩
    ∃ refusal, whole.result.1[3]? = some (.refused refusal) ∧
      refusal.message = "duplicate macro name: a" ∧
      whole =
        { without with
          result := (without.result.1.take 3 ++ .refused refusal :: without.result.1.drop 3,
            without.result.2) } := by
  intro fruit counting before after whole without
  obtain ⟨-, -, -, hiff, hrefused⟩ := performAll_attempts_exact .passthrough none before after
    ⟨"a", .inl counting⟩ (⟨[0]⟩ : Counters)
  obtain ⟨refusal, hrefusal⟩ := hiff.2 ⟨⟨"a", .inl fruit⟩, List.mem_cons_self, rfl⟩
  obtain ⟨hmessage, hwhole⟩ := hrefused refusal hrefusal
  exact ⟨refusal, hrefusal, hmessage, hwhole⟩

end Engine

end Placeholder
