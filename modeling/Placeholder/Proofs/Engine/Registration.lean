import Mathlib.Data.Option.Basic
import Placeholder.Engine.Basic

/-!
# Registering items

Macros and modifiers as items to be registered, and what an engine has under each name of each kind
(`lookup`).

* An item is registered if and only if its place is free, and then it is all that is new
  (`register_of_free`, `Registered.of_register`).
* The same items in another order are registered as well, and give an engine that has the same
  under every name (`registerAll_perm`).
-/

namespace Placeholder

/-- A macro or a modifier, and the name for it. -/
structure Registration (σ : Type) where
  name : String
  item : Macro σ ⊕ Modifier σ

/-- The place that the item takes: its name among the items of its kind. -/
def Registration.slot {σ : Type} (registration : Registration σ) : ItemKind × String :=
  match registration.item with
  | .inl _ => (.macros, registration.name)
  | .inr _ => (.modifiers, registration.name)

namespace Engine

variable {σ : Type}

/-- What the engine has at a place. -/
def lookup (engine : Engine σ) : ItemKind × String → Option (Macro σ ⊕ Modifier σ)
  | (.macros, name) => (engine.macros.get? name).map .inl
  | (.modifiers, name) => (engine.modifiers.get? name).map .inr

/-- The verdict on an item that is to be registered, and the engine after it. -/
def register (engine : Engine σ) (registration : Registration σ) :
    Except DuplicateName Unit × Engine σ :=
  match registration.item with
  | .inl item => engine.addMacro registration.name item
  | .inr item => engine.addModifier registration.name item

/-- The verdict on items that are to be registered one after the other, up to the first that is
refused, and the engine after them. -/
def registerAll (engine : Engine σ) :
    List (Registration σ) → Except DuplicateName Unit × Engine σ
  | [] => (.ok (), engine)
  | registration :: rest =>
    match engine.register registration with
    | (.ok (), next) => registerAll next rest
    | (.error refusal, next) => (.error refusal, next)

/-- Both engines have the same at every place and the same defaults.  The order of the names may
differ. -/
structure SameItems (engine other : Engine σ) : Prop where
  lookup (slot : ItemKind × String) : engine.lookup slot = other.lookup slot
  fallback : engine.fallback = other.fallback
  final : engine.finalModifier = other.finalModifier

/-- The second engine is the first one with one more item at a place that was free. -/
structure Registered (engine : Engine σ) (registration : Registration σ) (next : Engine σ) :
    Prop where
  free : engine.lookup registration.slot = none
  lookup (slot : ItemKind × String) :
    next.lookup slot = if slot = registration.slot then some registration.item
      else engine.lookup slot
  fallback : next.fallback = engine.fallback
  final : next.finalModifier = engine.finalModifier

/-! ## One item -/

theorem lookup_macros (engine : Engine σ) (name : String) :
    engine.lookup (.macros, name) = (engine.macros.get? name).map .inl := rfl

theorem lookup_modifiers (engine : Engine σ) (name : String) :
    engine.lookup (.modifiers, name) = (engine.modifiers.get? name).map .inr := rfl

theorem contains_eq_false_iff {α : Type} {registry : Registry α} {name : String} :
    registry.contains name = false ↔ registry.get? name = none := by
  rw [Registry.get?, Entries.get?_eq_none_iff, Registry.contains, Registry.names,
    ← Bool.not_eq_true, List.contains_iff_mem]

theorem get?_of_register {α : Type} {registry next : Registry α} {name : String} {item : α}
    (h : registry.register name item = (true, next)) :
    registry.get? name = none ∧
      ∀ other, next.get? other = if other = name then some item else registry.get? other := by
  cases htaken : registry.contains name with
  | true =>
    rw [Registry.register_of_contains htaken] at h
    simp at h
  | false =>
    rw [Registry.register_of_contains_eq_false htaken] at h
    obtain rfl := (Prod.mk.inj h).2
    exact ⟨contains_eq_false_iff.1 htaken, Entries.get?_insert registry.entries name item⟩

theorem exists_register_of_get? {α : Type} {registry : Registry α} {name : String} (item : α)
    (h : registry.get? name = none) : ∃ next, registry.register name item = (true, next) :=
  ⟨_, Registry.register_of_contains_eq_false (contains_eq_false_iff.2 h) item⟩

theorem addMacro_eq_ok_iff {engine next : Engine σ} {name : String} {item : Macro σ} :
    engine.addMacro name item = (.ok (), next) ↔
      ∃ macros, engine.macros.register name item = (true, macros) ∧
        { engine with macros } = next := by
  unfold addMacro
  obtain ⟨registered, macros⟩ := engine.macros.register name item
  cases registered <;> simp

theorem addModifier_eq_ok_iff {engine next : Engine σ} {name : String} {item : Modifier σ} :
    engine.addModifier name item = (.ok (), next) ↔
      ∃ modifiers, engine.modifiers.register name item = (true, modifiers) ∧
        { engine with modifiers } = next := by
  unfold addModifier
  obtain ⟨registered, modifiers⟩ := engine.modifiers.register name item
  cases registered <;> simp

theorem Registered.of_register {engine next : Engine σ} {registration : Registration σ}
    (h : engine.register registration = (.ok (), next)) : Registered engine registration next := by
  obtain ⟨name, item⟩ := registration
  cases item with
  | inl item =>
    obtain ⟨macros, hmacros, rfl⟩ := addMacro_eq_ok_iff.1 h
    obtain ⟨hfree, hget⟩ := get?_of_register hmacros
    refine ⟨congrArg (Option.map Sum.inl) hfree, fun (kind, other) => ?_, rfl, rfl⟩
    cases kind with
    | macros =>
      simp [lookup_macros, Registration.slot, hget, apply_ite (Option.map Sum.inl)]
    | modifiers => simp [lookup_modifiers, Registration.slot]
  | inr item =>
    obtain ⟨modifiers, hmodifiers, rfl⟩ := addModifier_eq_ok_iff.1 h
    obtain ⟨hfree, hget⟩ := get?_of_register hmodifiers
    refine ⟨congrArg (Option.map Sum.inr) hfree, fun (kind, other) => ?_, rfl, rfl⟩
    cases kind with
    | macros => simp [lookup_macros, Registration.slot]
    | modifiers =>
      simp [lookup_modifiers, Registration.slot, hget, apply_ite (Option.map Sum.inr)]

theorem register_of_free {engine : Engine σ} {registration : Registration σ}
    (h : engine.lookup registration.slot = none) :
    ∃ next, engine.register registration = (.ok (), next) := by
  obtain ⟨name, item⟩ := registration
  cases item with
  | inl item =>
    obtain ⟨macros, hmacros⟩ := exists_register_of_get? item (Option.map_eq_none_iff.1 h)
    exact ⟨{ engine with macros }, addMacro_eq_ok_iff.2 ⟨macros, hmacros, rfl⟩⟩
  | inr item =>
    obtain ⟨modifiers, hmodifiers⟩ := exists_register_of_get? item (Option.map_eq_none_iff.1 h)
    exact ⟨{ engine with modifiers }, addModifier_eq_ok_iff.2 ⟨modifiers, hmodifiers, rfl⟩⟩

/-! ## Several items -/

namespace SameItems

variable {engine other next : Engine σ}

theorem refl (engine : Engine σ) : SameItems engine engine := ⟨fun _ => rfl, rfl, rfl⟩

theorem trans {third : Engine σ} (h : SameItems engine other) (h' : SameItems other third) :
    SameItems engine third where
  lookup slot := (h.lookup slot).trans (h'.lookup slot)
  fallback := h.fallback.trans h'.fallback
  final := h.final.trans h'.final

/-- An item that one of the engines takes is taken by the other one. -/
theorem register (h : SameItems engine other) {registration : Registration σ}
    (hnext : engine.register registration = (.ok (), next)) :
    ∃ next', other.register registration = (.ok (), next') ∧ SameItems next next' := by
  have hregistered := Registered.of_register hnext
  have hfree : other.lookup registration.slot = none :=
    (h.lookup registration.slot).symm.trans hregistered.free
  obtain ⟨next', hnext'⟩ := register_of_free hfree
  have hregistered' := Registered.of_register hnext'
  refine ⟨next', hnext', fun slot => ?_, ?_, ?_⟩
  · rw [hregistered.lookup, hregistered'.lookup, h.lookup]
  · rw [hregistered.fallback, hregistered'.fallback, h.fallback]
  · rw [hregistered.final, hregistered'.final, h.final]

end SameItems

/-- Two items that are taken one after the other are taken in the other order as well. -/
theorem register_swap {engine between last : Engine σ} {first second : Registration σ}
    (hfirst : engine.register first = (.ok (), between))
    (hsecond : between.register second = (.ok (), last)) :
    ∃ between' last', engine.register second = (.ok (), between') ∧
      between'.register first = (.ok (), last') ∧ SameItems last last' := by
  have hbetween := Registered.of_register hfirst
  have hlast := Registered.of_register hsecond
  -- The second place was free after the first item was there, so it is another place.
  have hfree := hlast.free
  rw [hbetween.lookup] at hfree
  have hne : second.slot ≠ first.slot := by
    intro heq
    rw [if_pos heq] at hfree
    simp at hfree
  rw [if_neg hne] at hfree
  obtain ⟨between', hbetween'⟩ := register_of_free hfree
  have hregistered := Registered.of_register hbetween'
  have hfree' : between'.lookup first.slot = none := by
    rw [hregistered.lookup, if_neg hne.symm]
    exact hbetween.free
  obtain ⟨last', hlast'⟩ := register_of_free hfree'
  have hregistered' := Registered.of_register hlast'
  refine ⟨between', last', hbetween', hlast', fun slot => ?_, ?_, ?_⟩
  · rw [hlast.lookup, hbetween.lookup, hregistered'.lookup, hregistered.lookup]
    by_cases hslot : slot = second.slot
    · have hother : slot ≠ first.slot := fun heq => hne (hslot.symm.trans heq)
      rw [if_pos hslot, if_neg hother, if_pos hslot]
    · rw [if_neg hslot, if_neg hslot]
  · rw [hlast.fallback, hbetween.fallback, hregistered'.fallback, hregistered.fallback]
  · rw [hlast.final, hbetween.final, hregistered'.final, hregistered.final]

theorem registerAll_cons_eq_ok_iff {engine last : Engine σ} {registration : Registration σ}
    {rest : List (Registration σ)} :
    engine.registerAll (registration :: rest) = (.ok (), last) ↔
      ∃ next, engine.register registration = (.ok (), next) ∧
        next.registerAll rest = (.ok (), last) := by
  rw [registerAll]
  obtain ⟨verdict, next⟩ := engine.register registration
  cases verdict with
  | error refusal => simp
  | ok _ => simp

theorem SameItems.registerAll {engine other last : Engine σ} (h : SameItems engine other)
    {registrations : List (Registration σ)}
    (hlast : engine.registerAll registrations = (.ok (), last)) :
    ∃ last', other.registerAll registrations = (.ok (), last') ∧ SameItems last last' := by
  induction registrations generalizing engine other with
  | nil =>
    obtain rfl := (Prod.mk.inj hlast).2
    exact ⟨other, rfl, h⟩
  | cons registration rest ih =>
    obtain ⟨next, hnext, hrest⟩ := registerAll_cons_eq_ok_iff.1 hlast
    obtain ⟨next', hnext', hsame⟩ := h.register hnext
    obtain ⟨last', hrest', hsame'⟩ := ih hsame hrest
    exact ⟨last', registerAll_cons_eq_ok_iff.2 ⟨next', hnext', hrest'⟩, hsame'⟩

/-- Items that are registered in one order are registered in every order, and the engines have the
same at every place. -/
theorem registerAll_perm {engine last : Engine σ} {registrations others : List (Registration σ)}
    (hperm : registrations.Perm others)
    (hlast : engine.registerAll registrations = (.ok (), last)) :
    ∃ last', engine.registerAll others = (.ok (), last') ∧ SameItems last last' := by
  induction hperm generalizing engine last with
  | nil => exact ⟨last, hlast, .refl last⟩
  | cons registration _ ih =>
    obtain ⟨next, hnext, hrest⟩ := registerAll_cons_eq_ok_iff.1 hlast
    obtain ⟨last', hrest', hsame⟩ := ih hrest
    exact ⟨last', registerAll_cons_eq_ok_iff.2 ⟨next, hnext, hrest'⟩, hsame⟩
  | swap first second rest =>
    obtain ⟨between, hbetween, hrest⟩ := registerAll_cons_eq_ok_iff.1 hlast
    obtain ⟨after, hafter, hrest⟩ := registerAll_cons_eq_ok_iff.1 hrest
    obtain ⟨between', after', hbetween', hafter', hsame⟩ := register_swap hbetween hafter
    obtain ⟨last', hrest', hsame'⟩ := hsame.registerAll hrest
    have htail : between'.registerAll (second :: rest) = (.ok (), last') :=
      registerAll_cons_eq_ok_iff.2 ⟨after', hafter', hrest'⟩
    exact ⟨last', registerAll_cons_eq_ok_iff.2 ⟨between', hbetween', htail⟩, hsame'⟩
  | trans _ _ ih ih' =>
    obtain ⟨middle, hmiddle, hsame⟩ := ih hlast
    obtain ⟨last', hlast', hsame'⟩ := ih' hmiddle
    exact ⟨last', hlast', hsame.trans hsame'⟩

end Engine

end Placeholder
