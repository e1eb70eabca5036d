import Placeholder.Proofs.Engine.Checks
import Placeholder.Proofs.Engine.Refusals
import Placeholder.Proofs.FirstOccurrences

/-!
# The verdict on a template

Which verdict a template gets, told from three lists: its refused parameters, the names of its
tokens, and the names that are required (`Ruling`).  A refused parameter decides alone; without one
the first required name that no token has; and without that the template is approved with the names
of its tokens, each once and in the order in which they come first.

Main statement: validating gives the verdict of the rule and no other
(`validateNode_verdict_exact`).
-/

namespace Placeholder

/-- The verdict on a template with these errors, in which tokens have these names and some names are
required. -/
inductive Ruling (errors : List ValidationError) (names required : List String) :
    Except Errors Approval → Prop where
  | refused {found : Errors} (hfound : found.toList = errors) :
      Ruling errors names required (.error found)
  | missing {before after : List String} {name : String} (hnone : errors = [])
      (hrequired : required = before ++ name :: after) (hbefore : ∀ other ∈ before, other ∈ names)
      (hname : name ∉ names) :
      Ruling errors names required
        (.error
          { first := { message := "required macro: " ++ name ++ " not found", path := [] }
            others := [] })
  | approved {approval : Approval} (hnone : errors = [])
      (hrequired : ∀ name ∈ required, name ∈ names) (hused : ListsOnce names approval.used) :
      Ruling errors names required (.ok approval)

/-- The first required name that no token has is found by looking through the list. -/
theorem find?_of_missing {names required before after : List String} {name : String}
    (hrequired : required = before ++ name :: after) (hbefore : ∀ other ∈ before, other ∈ names)
    (hname : name ∉ names) : required.find? (fun other => other ∉ names) = some name := by
  rw [List.find?_eq_some_iff_append]
  refine ⟨by simpa using hname, before, after, hrequired, fun other hother => ?_⟩
  simpa using hbefore other hother

namespace Ruling

variable {errors : List ValidationError} {names required : List String}
  {verdict other : Except Errors Approval}

theorem unique (h : Ruling errors names required verdict)
    (hother : Ruling errors names required other) : verdict = other := by
  have htoList : ∀ found : Errors, found.toList ≠ [] := fun _ => List.cons_ne_nil _ _
  cases h with
  | @refused found hfound =>
    cases hother with
    | @refused found' hfound' =>
      have hsome := congrArg Errors.ofList? (hfound.trans hfound'.symm)
      rw [Errors.ofList?_toList, Errors.ofList?_toList] at hsome
      rw [Option.some.inj hsome]
    | missing hnone => exact absurd (hfound.trans hnone) (htoList found)
    | approved hnone => exact absurd (hfound.trans hnone) (htoList found)
  | missing hnone hrequired hbefore hname =>
    cases hother with
    | refused hfound' => exact absurd (hfound'.trans hnone) (htoList _)
    | missing _ hrequired' hbefore' hname' =>
      have hfind := find?_of_missing hrequired hbefore hname
      rw [find?_of_missing hrequired' hbefore' hname'] at hfind
      rw [Option.some.inj hfind]
    | approved _ hrequired' =>
      refine absurd (hrequired' _ ?_) hname
      rw [hrequired]
      exact List.mem_append_right _ List.mem_cons_self
  | @approved approval hnone hrequired hused =>
    cases hother with
    | refused hfound' => exact absurd (hfound'.trans hnone) (htoList _)
    | missing _ hrequired' _ hname' =>
      refine absurd (hrequired _ ?_) hname'
      rw [hrequired']
      exact List.mem_append_right _ List.mem_cons_self
    | @approved approval' _ _ hused' =>
      obtain ⟨used, nodup⟩ := approval
      obtain ⟨used', nodup'⟩ := approval'
      obtain rfl : used = used' := hused.unique hused'
      rfl

/-- A template is approved if and only if it has no errors and all names that are required. -/
theorem isOk_iff (h : Ruling errors names required verdict) :
    (∃ approval, verdict = .ok approval) ↔
      errors = [] ∧ ∀ name ∈ required, name ∈ names := by
  cases h with
  | @refused found hfound =>
    have hsome : errors ≠ [] := hfound ▸ List.cons_ne_nil _ _
    simp [hsome]
  | @missing before after name hnone hrequired _ hname =>
    have hmem : name ∈ required := by
      rw [hrequired]
      exact List.mem_append_right _ List.mem_cons_self
    refine ⟨fun hok => by simp at hok, fun hall => absurd (hall.2 name hmem) hname⟩
  | @approved approval hnone hrequired _ => exact ⟨fun _ => ⟨hnone, hrequired⟩, fun _ => ⟨_, rfl⟩⟩

/-- What is not approved with some names required is not approved with more. -/
theorem error_of_subset {others : List String} {found : Errors}
    (h : Ruling errors names required (.error found)) (hother : Ruling errors names others other)
    (hsubset : required ⊆ others) : ∃ found', other = .error found' := by
  cases other with
  | error found' => exact ⟨found', rfl⟩
  | ok approval =>
    obtain ⟨hnone, hall⟩ := hother.isOk_iff.1 ⟨approval, rfl⟩
    obtain ⟨_, hok⟩ := h.isOk_iff.2 ⟨hnone, fun name hname => hall name (hsubset hname)⟩
    simp at hok

end Ruling

namespace Engine

variable {σ : Type}

/-- What a walk has found is ruled on by the rule. -/
theorem ruling_verdict (findings : Findings) (required : List String) :
    Ruling findings.errors findings.names required (findings.verdict required) := by
  have hlists := listsOnce_firstOccurrences findings.names
  have huses : ∀ name, (Approval.ofNames findings.names).uses name = true ↔
      name ∈ findings.names := by
    intro name
    rw [Approval.uses, List.contains_iff_mem]
    exact hlists.mem_iff name
  unfold Findings.verdict
  cases herrors : findings.errors with
  | cons first others => exact .refused rfl
  | nil =>
    simp only [Errors.ofList?]
    cases hfind : required.find? fun name => !(Approval.ofNames findings.names).uses name with
    | some name =>
      obtain ⟨hname, before, after, hrequired, hbefore⟩ := List.find?_eq_some_iff_append.1 hfind
      refine .missing rfl hrequired (fun other hother => ?_) fun hmem => ?_
      · have hused := hbefore other hother
        rw [Bool.not_not] at hused
        exact (huses other).1 hused
      · rw [(huses name).2 hmem] at hname
        simp at hname
    | none =>
      refine .approved rfl (fun name hname => ?_) hlists
      have hused := List.find?_eq_none.1 hfind name hname
      rw [Bool.not_eq_true, Bool.not_eq_false'] at hused
      exact (huses name).1 hused

/-- What validating comes to, without a walk. -/
theorem run_validateNode (engine : Engine σ) (node : Node) (required : List String) (state : σ) :
    (validateNode engine node required).run state =
      { result := Findings.verdict
          { errors := engine.refusals node, names := node.macroNames } required
        state
        events := node.tokens.map engine.checkOf } := by
  have hlooks := looksAt_checkNode engine node
  have hfindings : ((checkNode engine node).run state).result =
      { errors := engine.refusals node, names := node.macroNames } := by
    rw [Node.macroNames, ← errors_checkNode engine node state, ← hlooks.names state]
  rw [validateNode, Session.run_bind]
  simp only [Session.run_pure, List.append_nil, hfindings, hlooks.state, hlooks.events]

theorem ruling_validateNode (engine : Engine σ) (node : Node) (required : List String)
    (state : σ) :
    Ruling (engine.refusals node) node.macroNames required
      ((validateNode engine node required).run state).result := by
  rw [run_validateNode]
  exact ruling_verdict { errors := engine.refusals node, names := node.macroNames } required

/-- Whatever the engine, its state, the template and the names that are required, validating gives
the verdict of the rule and no other.  So there is at least one error where the template is not
approved; it is approved if and only if no parameter is refused and each required name is that of a
token; and names that are required in addition, again or in another order never make it approved
where it was not.  A text alone is a structure that is one leaf. -/
theorem validateNode_verdict_exact (engine : Engine σ) (node : Node) (required : List String)
    (state : σ) :
    let verdict := ((validateNode engine node required).run state).result
    (∀ other, Ruling (engine.refusals node) node.macroNames required other ↔ other = verdict) ∧
    (∀ errors, verdict = .error errors → errors.toList ≠ []) ∧
    ((∃ approval, verdict = .ok approval) ↔
      engine.refusals node = [] ∧ ∀ name ∈ required, name ∈ node.macroNames) ∧
    (∀ (others : List String) (state' : σ), required ⊆ others →
      (∃ errors, verdict = .error errors) →
      ∃ errors, ((validateNode engine node others).run state').result = .error errors) ∧
    ∀ template, validateText engine template required =
      validateNode engine (.scalar (.string template)) required := by
  intro verdict
  have hruling : Ruling (engine.refusals node) node.macroNames required verdict :=
    ruling_validateNode engine node required state
  have hexact : ∀ other, Ruling (engine.refusals node) node.macroNames required other ↔
      other = verdict := by
    intro other
    constructor
    · intro hother
      exact hother.unique hruling
    · intro hother
      rw [hother]
      exact hruling
  refine ⟨hexact, fun errors _ => List.cons_ne_nil _ _, hruling.isOk_iff, ?_, fun _ => rfl⟩
  intro others state' hsubset herror
  obtain ⟨errors, herrors⟩ := herror
  rw [herrors] at hruling
  exact hruling.error_of_subset (ruling_validateNode engine node others state') hsubset

/-- A list with a name twice, a parameter that is accepted and a modifier whose name is required. -/
theorem validateNode_verdict_missing :
    let engine : Engine Unit := {}
    let node : Node := .list
      [.scalar (.string "{{ b }} {{ a: 1 }}"), .scalar .null, .scalar (.string "{{ b | c }}")]
    node.macroNames = ["b", "a", "b"] ∧
    ((validateNode engine node ["a", "c", "d"]).run ()).result =
      .error ⟨⟨"required macro: c not found", []⟩, []⟩ ∧
    ∃ errors, ((validateNode engine node ["d", "a", "a", "c"]).run ()).result = .error errors := by
  intro engine node
  have hnames : node.macroNames = ["b", "a", "b"] := by
    decide +kernel
  obtain ⟨hexact, -, -, hmore, -⟩ := validateNode_verdict_exact engine node ["a", "c", "d"] ()
  have hruling : Ruling (engine.refusals node) node.macroNames ["a", "c", "d"]
      (.error ⟨⟨"required macro: c not found", []⟩, []⟩) := by
    rw [hnames]
    have hnone : engine.refusals node = [] := by
      decide +kernel
    have hsplit : ["a", "c", "d"] = ["a"] ++ "c" :: ["d"] := rfl
    exact .missing hnone hsplit (by decide) (by decide)
  have hverdict := ((hexact _).1 hruling).symm
  exact ⟨hnames, hverdict, hmore _ () (by decide) ⟨_, hverdict⟩⟩

end Engine

end Placeholder
