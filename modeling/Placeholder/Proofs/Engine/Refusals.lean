import Placeholder.Engine.Validate
import Placeholder.Proofs.Node.Texts
import Placeholder.Proofs.Token.Scanning

/-!
# Refused parameters

Which errors a template has, told leaf by leaf: each token of each text whose macro refuses its
parameter gives one error, which has the message of the macro and the path to the text with the name
of the macro at its end (`refusals`).  The walk over a template finds these errors and no others,
although it gives an error the name alone at first and puts a segment in front on the way up from
each child (`errors_checkNode`).

Main statement: `validateNode_errors_exact`.
-/

namespace Placeholder.Engine

open Node (PlacedText)

variable {σ : Type}

/-- The error of a token in the text at a path, if the macro for its name refuses its parameter. -/
def refusal? (engine : Engine σ) (path : Path) (token : Token) : Option ValidationError :=
  match ((engine.macros.get? token.name).getD engine.fallback).check token.parameter with
  | .ok () => none
  | .error own => some { message := own.message, path := path ++ [.key token.name] }

/-- The errors of the tokens in a text, from left to right. -/
def refusalsIn (engine : Engine σ) (placed : PlacedText) : List ValidationError :=
  (Token.allIn placed.text).filterMap (engine.refusal? placed.path)

/-- The errors of the texts of a structure, in document order. -/
def refusals (engine : Engine σ) (node : Node) : List ValidationError :=
  node.texts.flatMap engine.refusalsIn

section

variable {engine : Engine σ} {path : Path} {token : Token} {error : ValidationError}

theorem refusal?_eq_some_iff :
    engine.refusal? path token = some error ↔
      error.path = path ++ [.key token.name] ∧
        ∃ own, ((engine.macros.get? token.name).getD engine.fallback).check token.parameter =
          .error own ∧ own.message = error.message := by
  unfold refusal?
  cases ((engine.macros.get? token.name).getD engine.fallback).check token.parameter with
  | ok accepted => simp
  | error own =>
    obtain ⟨message, place⟩ := error
    simp [and_comm, eq_comm]

theorem mem_refusals_iff {node : Node} :
    error ∈ engine.refusals node ↔
      ∃ placed ∈ node.texts, ∃ token ∈ Token.allIn placed.text,
        engine.refusal? placed.path token = some error := by
  simp only [refusals, refusalsIn, List.mem_flatMap, List.mem_filterMap]

end

section Walk

variable (engine : Engine σ)

/-! ## One step up -/

theorem refusal?_cons (segment : Segment) (path : Path) (token : Token) :
    engine.refusal? (segment :: path) token =
      (engine.refusal? path token).map (·.prepend segment) := by
  unfold refusal?
  split <;> rfl

theorem refusalsIn_inside (placed : PlacedText) (segment : Segment) :
    engine.refusalsIn (placed.inside segment) =
      (engine.refusalsIn placed).map (·.prepend segment) := by
  rw [refusalsIn, refusalsIn, List.map_filterMap]
  exact congrArg (List.filterMap · _) (funext (engine.refusal?_cons segment placed.path))

/-- What the texts of a child give, seen from one step further up. -/
theorem flatMap_refusalsIn_inside (texts : List PlacedText) (segment : Segment) :
    (texts.map (·.inside segment)).flatMap engine.refusalsIn =
      (texts.flatMap engine.refusalsIn).map (·.prepend segment) := by
  rw [List.flatMap_map, List.map_flatMap]
  exact congrArg (List.flatMap · texts)
    (funext fun placed => engine.refusalsIn_inside placed segment)

/-! ## The walk -/

theorem macroFor_snd (name : String) :
    (engine.macroFor name).2 = (engine.macros.get? name).getD engine.fallback := by
  unfold macroFor
  cases engine.macros.get? name <;> rfl

theorem errors_checkToken (token : Token) (state : σ) :
    ((checkToken engine token).run state).result.errors = (engine.refusal? [] token).toList := by
  rw [checkToken, refusal?, ← macroFor_snd, Session.run_bind, run_askMacro]
  cases (engine.macroFor token.name).2.check token.parameter <;> rfl

theorem errors_checkTokens (tokens : List Token) (state : σ) :
    ((checkTokens engine tokens).run state).result.errors =
      tokens.filterMap (engine.refusal? []) := by
  induction tokens generalizing state with
  | nil => rfl
  | cons token rest ih =>
    simp only [checkTokens, Session.run_bind, Session.run_pure, Findings.append,
      errors_checkToken, ih]
    cases h : engine.refusal? [] token with
    | none => rw [List.filterMap_cons_none h]; rfl
    | some error => rw [List.filterMap_cons_some h]; rfl

mutual

theorem errors_checkNode : ∀ (node : Node) (state : σ),
    ((checkNode engine node).run state).result.errors = engine.refusals node
  | .scalar v, state => by
    cases v with
    | string template =>
      rw [checkNode, checkText, errors_checkTokens, refusals, Node.texts, List.flatMap_singleton,
        refusalsIn]
    | integer i => rfl
    | float x => rfl
    | boolean b => rfl
    | null => rfl
  | .map entries, state => errors_checkEntries entries state
  | .list items, state => errors_checkItems 0 items state

theorem errors_checkEntries : ∀ (entries : List (String × Node)) (state : σ),
    ((checkEntries engine entries).run state).result.errors =
      (Node.textsOfEntries entries).flatMap engine.refusalsIn
  | [], _ => rfl
  | (key, child) :: rest, state => by
    simp only [checkEntries, Session.run_bind, Session.run_pure, Findings.append, Findings.inside,
      Node.textsOfEntries, List.flatMap_append, flatMap_refusalsIn_inside,
      errors_checkNode child, errors_checkEntries rest, refusals]

theorem errors_checkItems : ∀ (position : Nat) (items : List Node) (state : σ),
    ((checkItems engine position items).run state).result.errors =
      (Node.textsOfItems position items).flatMap engine.refusalsIn
  | _, [], _ => rfl
  | position, item :: rest, state => by
    simp only [checkItems, Session.run_bind, Session.run_pure, Findings.append, Findings.inside,
      Node.textsOfItems, List.flatMap_append, flatMap_refusalsIn_inside,
      errors_checkNode item, errors_checkItems (position + 1) rest, refusals]

end

end Walk

/-! ## The verdict -/

/-- Errors that a walk has found are the verdict, whatever names are required. -/
theorem verdict_of_errors {findings : Findings} (required : List String)
    (h : findings.errors ≠ []) :
    ∃ errors, findings.verdict required = .error errors ∧ errors.toList = findings.errors := by
  obtain ⟨first, others, herrors⟩ := List.exists_cons_of_ne_nil h
  refine ⟨⟨first, others⟩, ?_, herrors.symm⟩
  rw [Findings.verdict, herrors]
  rfl

/-- Without them only a name that is required can be missing. -/
theorem required_of_verdict {findings : Findings} {required : List String} {errors : Errors}
    (h : findings.errors = []) (hverdict : findings.verdict required = .error errors) :
    ∃ name ∈ required, errors = .ofMessage ("required macro: " ++ name ++ " not found") := by
  rw [Findings.verdict, h] at hverdict
  simp only [Errors.ofList?] at hverdict
  split at hverdict
  · next name hname =>
    obtain rfl := Except.error.inj hverdict
    exact ⟨name, List.mem_of_find?_eq_some hname, rfl⟩
  · simp at hverdict

/-- The path of a refusal leads to its text, and its last segment names the macro. -/
theorem follow?_of_mem_refusals {engine : Engine σ} {node : Node} {error : ValidationError}
    (hnode : node.Distinct) (herror : error ∈ engine.refusals node) :
    ∃ (text : String) (token : Token) (own : ValidationError),
      error.path.getLast? = some (.key token.name) ∧
      node.follow? error.path.dropLast = some (.scalar (.string text)) ∧
      token ∈ Token.allIn text ∧
      ((engine.macros.get? token.name).getD engine.fallback).check token.parameter = .error own ∧
      own.message = error.message := by
  obtain ⟨placed, hplaced, token, htoken, hrefusal⟩ := mem_refusals_iff.1 herror
  obtain ⟨hpath, own, hcheck, hmessage⟩ := refusal?_eq_some_iff.1 hrefusal
  refine ⟨placed.text, token, own, ?_, ?_, htoken, hcheck, hmessage⟩
  · rw [hpath, List.getLast?_concat]
  · rw [hpath, List.dropLast_concat]
    exact Node.follow?_of_mem_texts hnode placed hplaced

/-- Whatever the engine, its state and the template, validating finds one error for each token of
each text whose macro refuses its parameter, in document order of the texts and from left to right
in each, with the message of the macro and the path to the text followed by the macro's name.  If
there are such errors, they are the verdict, and if there are none, only a required name can be
missing.  In a structure without repeated keys the texts are all string leaves and nothing else, in
document order, and all segments of an error's path but the last lead to the text with the token. -/
theorem validateNode_errors_exact (engine : Engine σ) (node : Node) (required : List String)
    (state : σ) :
    let found := ((checkNode engine node).run state).result.errors
    let verdict := ((validateNode engine node required).run state).result
    found = engine.refusals node ∧
    (found ≠ [] → ∃ errors, verdict = .error errors ∧ errors.toList = engine.refusals node) ∧
    (found = [] → ∀ errors, verdict = .error errors →
      ∃ name ∈ required, errors = .ofMessage ("required macro: " ++ name ++ " not found")) ∧
    (node.Distinct →
      (∀ path text, ⟨path, text⟩ ∈ node.texts ↔
        node.follow? path = some (.scalar (.string text))) ∧
      (node.texts.Pairwise fun first second => node.Precedes first.path second.path) ∧
      ∀ error ∈ found, ∃ (text : String) (token : Token) (own : ValidationError),
        error.path.getLast? = some (.key token.name) ∧
        node.follow? error.path.dropLast = some (.scalar (.string text)) ∧
        token ∈ Token.allIn text ∧
        ((engine.macros.get? token.name).getD engine.fallback).check token.parameter =
          .error own ∧
        own.message = error.message) := by
  intro found verdict
  have hfound : found = engine.refusals node := errors_checkNode engine node state
  have hverdict : verdict = ((checkNode engine node).run state).result.verdict required := by
    show ((validateNode engine node required).run state).result = _
    rw [validateNode, Session.run_bind]
    rfl
  refine ⟨hfound, ?_, ?_, fun hnode => ⟨?_, ?_, ?_⟩⟩
  · intro hne
    rw [hverdict, ← hfound]
    exact verdict_of_errors required hne
  · intro hnone errors herrors
    rw [hverdict] at herrors
    exact required_of_verdict hnone herrors
  · exact Node.mem_texts_iff hnode
  · exact Node.pairwise_texts hnode
  · intro error herror
    rw [hfound] at herror
    exact follow?_of_mem_refusals hnode herror

/-- An order with a refused parameter in a list and another one after it, below a key that looks
like a token. -/
theorem validateNode_errors_order :
    let engine : Engine Unit :=
      { fallback := (BuiltInMacro.constant .null "null" "").toMacro }
    let node : Node := .map
      [("items", .list [.scalar (.string "{{ a }} {{ b: 1 }}"), .scalar (.boolean true)]),
        ("{{ c: 2 }}", .map [("d", .scalar (.string "{{ e: 3 | f }}!"))])]
    node.Distinct ∧
    ((checkNode engine node).run ()).result.errors =
      [⟨"param not allowed", [.key "items", .index 0, .key "b"]⟩,
        ⟨"param not allowed", [.key "{{ c: 2 }}", .key "d", .key "e"]⟩] ∧
    ∃ text token, node.follow? [.key "items", .index 0] = some (.scalar (.string text)) ∧
      token ∈ Token.allIn text ∧ token.name = "b" := by
  intro engine node
  have hnode : node.Distinct := by
    decide
  have herrors : ((checkNode engine node).run ()).result.errors =
      [⟨"param not allowed", [.key "items", .index 0, .key "b"]⟩,
        ⟨"param not allowed", [.key "{{ c: 2 }}", .key "d", .key "e"]⟩] := by
    decide +kernel
  refine ⟨hnode, herrors, ?_⟩
  obtain ⟨-, -, -, hplaces⟩ := validateNode_errors_exact engine node [] ()
  obtain ⟨text, token, own, hlast, hfollow, hmem, -⟩ := (hplaces hnode).2.2 _
    (by rw [herrors]; exact List.mem_cons_self)
  exact ⟨text, token, hfollow, hmem, by simpa [eq_comm] using hlast⟩

end Placeholder.Engine
