import Placeholder.Proofs.Engine.Attempts
import Placeholder.Proofs.Engine.Verdict

/-!
# Documented parameters

What the documentation of an engine says about the parameter of a token, and that validating goes by
it.  A macro answers three questions about parameters: whether it takes one, which ones it allows,
and whether it accepts a given one.  The documentation is made of the first two answers, and only
the third counts for validating.  A macro of the library gives all three by one rule
(`BuiltInMacro.rule`), so the documentation determines the third (`check_eq_ok_iff_permits`).

Main statement: `validateNode_documented_exact`.
-/

namespace Placeholder

/-! ## What the documentation permits -/

/-- The entry permits the parameter, or that there is none: no parameter is allowed and there is
none, or the allowed ones are listed and it is among them, or any is allowed. -/
def MacroParameter.Permits (facet : MacroParameter) (parameter : Option String) : Prop :=
  facet.allow = false ∧ parameter = none ∨
    (∃ values ∈ facet.list, ∃ given ∈ parameter, given ∈ values) ∨
    facet.allow = true ∧ facet.list = none

instance (facet : MacroParameter) (parameter : Option String) :
    Decidable (facet.Permits parameter) :=
  inferInstanceAs (Decidable (_ ∨ _))

/-- The documentation permits the parameter for the macro with the name.  What has no entry may have
any parameter. -/
def Documentation.Permits (doc : Documentation) (name : String) (parameter : Option String) :
    Prop :=
  ∀ entry ∈ doc.macroEntry? name, entry.parameter.Permits parameter

instance (doc : Documentation) (name : String) (parameter : Option String) :
    Decidable (doc.Permits name parameter) :=
  inferInstanceAs (Decidable (∀ entry ∈ doc.macroEntry? name, entry.parameter.Permits parameter))

/-! ## Rules -/

namespace ParameterRule

/-- A list of allowed values is a rule that asks for one of them. -/
theorem fault?_oneOf_eq_none_iff {values : List String} {parameter : Option String} :
    (oneOf values).fault? parameter = .none ↔ ∃ given ∈ parameter, given ∈ values := by
  cases values with
  | nil => simp [fault?]
  | cons first others =>
    cases parameter with
    | none => simp [fault?]
    | some given =>
      have hfault : (oneOf (first :: others)).fault? (some given) =
          if (first :: others).contains given then .none
          else some (.notListed given (first :: others)) := rfl
      rw [hfault]
      by_cases hmem : given ∈ first :: others
      · have hcontains : (first :: others).contains given = true := List.contains_iff_mem.2 hmem
        rw [if_pos hcontains]
        exact iff_of_true rfl ⟨given, rfl, hmem⟩
      · have hcontains : ¬ (first :: others).contains given = true :=
          fun h => hmem (List.contains_iff_mem.1 h)
        rw [if_neg hcontains]
        refine iff_of_false (Option.some_ne_none _) ?_
        rintro ⟨other, hother, hin⟩
        obtain rfl := Option.some.inj hother
        exact hmem hin

/-- A rule accepts what its documentation permits. -/
theorem check_eq_ok_iff_permits {rule : ParameterRule} {parameter : Option String} :
    rule.check parameter = .ok () ↔
      MacroParameter.Permits { allow := rule.accepts, list := rule.allowed? } parameter := by
  have hcheck : rule.check parameter = .ok () ↔ rule.fault? parameter = .none := by
    unfold check
    cases rule.fault? parameter <;> simp
  rw [hcheck]
  cases rule with
  | none => cases parameter <;> simp [fault?, accepts, allowed?, MacroParameter.Permits]
  | oneOf values =>
    rw [fault?_oneOf_eq_none_iff]
    simp [accepts, allowed?, MacroParameter.Permits]
  | any => simp [fault?, accepts, allowed?, MacroParameter.Permits]

end ParameterRule

namespace BuiltInMacro

variable {σ : Type}

/-- The rule that a macro of the library follows. -/
def rule : BuiltInMacro σ → ParameterRule
  | .constant .. => .none
  | .computed _ _ _ parameters => parameters
  | .either .. => .none
  | .passthrough => .any

/-- All that a macro of the library says about parameters is what its rule says. -/
theorem toMacro_follows_rule (item : BuiltInMacro σ) :
    item.toMacro.check = item.rule.check ∧ item.toMacro.takesParameter = item.rule.accepts ∧
      item.toMacro.allowed? = item.rule.allowed? := by
  cases item with
  | constant | computed | either | passthrough => exact ⟨rfl, rfl, rfl⟩

theorem check_eq_ok_iff_permits (item : BuiltInMacro σ) (name : String)
    (parameter : Option String) :
    item.toMacro.check parameter = .ok () ↔
      (MacroEntry.describe name item.toMacro).parameter.Permits parameter := by
  obtain ⟨hcheck, htakes, hallowed⟩ := item.toMacro_follows_rule
  rw [hcheck, MacroEntry.describe, htakes, hallowed]
  exact ParameterRule.check_eq_ok_iff_permits

end BuiltInMacro

namespace Engine

variable {σ : Type}

/-- All macros are those of the library, and unknown names are left as they are written. -/
structure UsesBuiltIns (engine : Engine σ) : Prop where
  macros : ∀ entry ∈ engine.macros.entries, ∃ item : BuiltInMacro σ, entry.2 = item.toMacro
  fallback : engine.fallback = .passthrough

theorem macroEntry?_documentation (engine : Engine σ) (name : String) :
    engine.documentation.macroEntry? name =
      (engine.macros.get? name).map (MacroEntry.describe name) :=
  engine.macros.find?_map_entries (fun _ _ => rfl) name

/-- The macro for a name accepts what the documentation permits for the name. -/
theorem check_eq_ok_iff_permits {engine : Engine σ} (h : engine.UsesBuiltIns) (name : String)
    (parameter : Option String) :
    ((engine.macros.get? name).getD engine.fallback).check parameter = .ok () ↔
      engine.documentation.Permits name parameter := by
  rw [Documentation.Permits, macroEntry?_documentation]
  cases hget : engine.macros.get? name with
  | none =>
    rw [Option.getD_none, h.fallback]
    exact iff_of_true rfl fun entry hentry => by simp at hentry
  | some found =>
    obtain ⟨item, hitem⟩ := h.macros (name, found) (Entries.mem_of_get? hget)
    obtain rfl : found = item.toMacro := hitem
    simp [item.check_eq_ok_iff_permits name]

theorem refusal?_eq_none_iff {engine : Engine σ} {path : Path} {token : Token} :
    engine.refusal? path token = none ↔
      ((engine.macros.get? token.name).getD engine.fallback).check token.parameter = .ok () := by
  unfold refusal?
  cases ((engine.macros.get? token.name).getD engine.fallback).check token.parameter <;> simp

theorem refusals_eq_nil_iff {engine : Engine σ} {node : Node} :
    engine.refusals node = [] ↔ ∀ token ∈ node.tokens,
      ((engine.macros.get? token.name).getD engine.fallback).check token.parameter = .ok () := by
  simp only [refusals, refusalsIn, Node.tokens, Node.tokensIn, List.flatMap_eq_nil_iff,
    List.filterMap_eq_nil_iff, List.mem_flatMap, refusal?_eq_none_iff]
  constructor
  · rintro h token ⟨placed, hplaced, htoken⟩
    exact h placed hplaced token htoken
  · intro h placed hplaced token htoken
    exact h token ⟨placed, hplaced, htoken⟩

/-- If all macros of an engine are those of the library and unknown names are left as they are
written, then, whatever the state and the template, validating without required names approves the
template exactly if the documentation of the engine permits the parameter of every token in it.  A
token gives an error exactly if its parameter is not permitted, and with required names a template
is approved exactly if, in addition, they are all used. -/
theorem validateNode_documented_exact {engine : Engine σ} (h : engine.UsesBuiltIns) (node : Node)
    (state : σ) :
    ((∃ approval, ((validateNode engine node []).run state).result = .ok approval) ↔
      ∀ token ∈ node.tokens, engine.documentation.Permits token.name token.parameter) ∧
    (∀ path token, engine.refusal? path token = none ↔
      engine.documentation.Permits token.name token.parameter) ∧
    ∀ required,
      (∃ approval, ((validateNode engine node required).run state).result = .ok approval) ↔
        (∀ token ∈ node.tokens, engine.documentation.Permits token.name token.parameter) ∧
          ∀ name ∈ required, name ∈ node.macroNames := by
  have hverdict : ∀ required,
      (∃ approval, ((validateNode engine node required).run state).result = .ok approval) ↔
        (∀ token ∈ node.tokens, engine.documentation.Permits token.name token.parameter) ∧
          ∀ name ∈ required, name ∈ node.macroNames := by
    intro required
    rw [(ruling_validateNode engine node required state).isOk_iff, refusals_eq_nil_iff]
    simp only [check_eq_ok_iff_permits h]
  refine ⟨?_, fun path token => ?_, hverdict⟩
  · rw [hverdict []]
    simp
  · rw [refusal?_eq_none_iff, check_eq_ok_iff_permits h]

/-- A list with the empty text, which a parameter of blanks is, and an empty list, which no token
can meet. -/
theorem validateNode_documented_lists :
    let listing (values : List String) : BuiltInMacro Unit :=
      .computed (fun _ state => (.null, state)) "null" "" (.oneOf values)
    let engine : Engine Unit :=
      { macros :=
          ⟨[("some", (listing ["", "x"]).toMacro), ("none", (listing []).toMacro)], by decide⟩ }
    let meeting : Node := .list [.scalar (.string "{{ some: x }}{{ some: }} {{ other: y }}")]
    let failing : Node := .list [.scalar (.string "{{ some: x }}"), .scalar (.string "{{ none }}")]
    engine.UsesBuiltIns ∧
    (∃ approval, ((validateNode engine meeting []).run ()).result = .ok approval) ∧
    ¬ ∃ approval, ((validateNode engine failing []).run ()).result = .ok approval := by
  intro listing engine meeting failing
  have hengine : engine.UsesBuiltIns := by
    refine ⟨fun entry hentry => ?_, rfl⟩
    rcases List.mem_cons.1 hentry with rfl | hentry
    · exact ⟨listing ["", "x"], rfl⟩
    · rcases List.mem_singleton.1 hentry with rfl
      exact ⟨listing [], rfl⟩
  obtain ⟨hmeeting, -⟩ := validateNode_documented_exact hengine meeting ()
  obtain ⟨hfailing, -⟩ := validateNode_documented_exact hengine failing ()
  refine ⟨hengine, hmeeting.2 (by decide +kernel), fun hok => ?_⟩
  exact absurd (hfailing.1 hok) (by decide +kernel)

end Engine

end Placeholder
