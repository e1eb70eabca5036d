import Placeholder.Proofs.Engine.WholeText
import Placeholder.Proofs.Token.Cutting

/-!
# Locality

Resolving a template part by part.  `textOf` is what a template or a token contributes to the text
around it, and `followedBy` puts the texts of two sessions together that run one after the other.

Where the cut between two templates goes through no token, the whole is resolved as the first
followed by the second, in all that is done and in the text (`textOf_append`).  So a token is
resolved between the texts around it, which are resolved as if they stood alone, and the text of the
token's value is put between the other two as it is (`textOf_around`).

Main statement: `resolveText_append_exact`.
-/

namespace Placeholder.Engine

variable {σ : Type}

/-- The text of the value that a session gives. -/
def textOf (session : Session σ Value) : Session σ String := do
  let value ← session
  return value.text

/-- One session after the other, with their texts put together. -/
def followedBy (first second : Session σ String) : Session σ String := do
  let before ← first
  let after ← second
  return before ++ after

theorem run_textOf (session : Session σ Value) (state : σ) :
    (textOf session).run state =
      let outcome := session.run state
      { outcome with result := outcome.result.text } := by
  simp only [textOf, Session.run_bind, Session.run_pure, List.append_nil]

theorem run_followedBy (first second : Session σ String) (state : σ) :
    (followedBy first second).run state =
      let before := first.run state
      let after := second.run before.state
      { result := before.result ++ after.result
        state := after.state
        events := before.events ++ after.events } := by
  simp only [followedBy, Session.run_bind, Session.run_pure, List.append_nil]

section

variable (engine : Engine σ)

/-- Whether or not the template is one token, its text is the one in which all tokens are
replaced. -/
theorem textOf_resolveText (template : String) :
    textOf (resolveText engine template) = fillText engine template := by
  funext state
  change (textOf (resolveText engine template)).run state = (fillText engine template).run state
  rw [fillText_eq_embedText, run_textOf]
  cases h : Token.ofText? template with
  | some token => rw [resolveText_of_whole engine h, embedText_of_whole engine h state]
  | none =>
    rw [resolveText_of_not_whole engine h state]
    rfl

/-! ## Tokens in other places -/

theorem applySteps_at (token : Token) (start stop : Nat) (value : Value) (steps : List Step) :
    applySteps engine { token with start, stop } value steps =
      applySteps engine token value steps := by
  induction steps generalizing value with
  | nil => rfl
  | cons step rest ih =>
    rw [applySteps, applySteps]
    exact congrArg (applyStep engine token value step >>= ·) (funext ih)

/-- Where a token stands does not count for what is made of it. -/
theorem resolveToken_at (token : Token) (start stop : Nat) :
    resolveToken engine { token with start, stop } = resolveToken engine token := by
  rw [resolveToken, resolveToken]
  refine congrArg (callMacro engine token >>= ·) (funext fun value => ?_)
  rw [applySteps_at]
  rfl

/-! ## Templates put together -/

theorem textOf_append {first second : String} (hcut : Token.CutFits first second) :
    textOf (resolveText engine (first ++ second)) =
      followedBy (textOf (resolveText engine first)) (textOf (resolveText engine second)) := by
  simp only [textOf_resolveText, fillText]
  exact Token.replaceM_append hcut fun offset token => by rw [Token.shift, resolveToken_at]

theorem textOf_around {token : Token} {before after : String}
    (hbefore : Token.CutFits before (token.raw ++ after))
    (hreads : Token.ofText? token.raw =
      some { token with start := 0, stop := token.raw.utf8ByteSize }) :
    textOf (resolveText engine (before ++ (token.raw ++ after))) =
      followedBy (textOf (resolveText engine before))
        (followedBy (textOf (resolveToken engine token)) (textOf (resolveText engine after))) := by
  have hraw : resolveText engine token.raw = resolveToken engine token := by
    rw [resolveText_of_whole engine hreads, resolveToken_at]
  rw [textOf_append engine hbefore, textOf_append engine (Token.cutFits_of_whole hreads after),
    hraw]

end

/-- Whatever the engine and its state, where the cut between two templates goes through no token
that a scan of the whole finds, the scan finds the tokens of the first and then those of the second
in their places, and resolving the whole gives the text, leaves the state, does the things and
reports the warnings of resolving the first and then the second.  No token goes over a cut after a
closing brace if no closing brace follows.  And a token of a template is scanned and resolved
between the texts around it, which are scanned and resolved as if they stood alone, while the text
of its value becomes part of the result as it is. -/
theorem resolveText_append_exact (engine : Engine σ) (state : σ) :
    (∀ first second : String, Token.CutFits first second →
      Token.allIn (first ++ second) =
        Token.allIn first ++ (Token.allIn second).map (Token.shift first.utf8ByteSize) ∧
      let before := (resolveText engine first).run state
      let after := (resolveText engine second).run before.state
      let whole := (resolveText engine (first ++ second)).run state
      whole.result.text = before.result.text ++ after.result.text ∧
      whole.state = after.state ∧
      whole.events = before.events ++ after.events ∧
      whole.warnings = before.warnings ++ after.warnings) ∧
    (∀ first second : String, first.toList.getLast? = some '}' → second.toList.head? ≠ some '}' →
      Token.CutFits first second) ∧
    (∀ (template : String) (token : Token), token ∈ Token.allIn template →
      ∃ before after : String, template = before ++ (token.raw ++ after) ∧
        token.start = before.utf8ByteSize ∧
        Token.allIn template =
          Token.allIn before ++ token :: (Token.allIn after).map (Token.shift token.stop) ∧
        let left := (resolveText engine before).run state
        let middle := (resolveToken engine token).run left.state
        let right := (resolveText engine after).run middle.state
        let whole := (resolveText engine template).run state
        whole.result.text = left.result.text ++ (middle.result.text ++ right.result.text) ∧
        whole.state = right.state ∧
        whole.events = left.events ++ (middle.events ++ right.events) ∧
        whole.warnings = left.warnings ++ (middle.warnings ++ right.warnings)) := by
  refine ⟨?_, fun first second => Token.cutFits_of_brace, ?_⟩
  · intro first second hcut
    refine ⟨Token.allIn_append hcut, ?_⟩
    intro before after whole
    have hwhole := congrArg (·.run state) (textOf_append engine hcut)
    simp only [run_followedBy, run_textOf] at hwhole
    obtain ⟨hresult, hstate, hevents⟩ := Outcome.mk.inj hwhole
    exact ⟨hresult, hstate, hevents, (congrArg _ hevents).trans (List.filterMap_append ..)⟩
  · intro template token hmem
    obtain ⟨before, after, rfl, hstart, hbefore, hall⟩ := Token.exists_around hmem
    have hreads := (Token.leftmost_allIn _).reads token hmem
    refine ⟨before, after, rfl, hstart, hall, ?_⟩
    intro left middle right whole
    have hwhole := congrArg (·.run state) (textOf_around engine hbefore hreads)
    simp only [run_followedBy, run_textOf] at hwhole
    obtain ⟨hresult, hstate, hevents⟩ := Outcome.mk.inj hwhole
    refine ⟨hresult, hstate, hevents, ?_⟩
    simp only [Outcome.warnings, ← List.filterMap_append]
    exact congrArg _ hevents

/-- A cut after a closing brace, with a macro whose text looks like a token. -/
theorem resolveText_append_tokenLike :
    let engine : Engine Unit :=
      { fallback := (BuiltInMacro.constant (.string "{{ b }}") "string" "").toMacro }
    Token.CutFits "Hi {{ a }}" "{{ b: 1 }}!" ∧
      ((resolveText engine "Hi {{ a }}{{ b: 1 }}!").run ()).result.text =
        "Hi {{ b }}" ++ "{{ b }}!" := by
  intro engine
  obtain ⟨happend, hbrace, -⟩ := resolveText_append_exact engine ()
  have hcut : Token.CutFits "Hi {{ a }}" "{{ b: 1 }}!" := hbrace _ _ (by decide) (by decide)
  obtain ⟨-, htext, -⟩ := happend _ _ hcut
  refine ⟨hcut, htext.trans ?_⟩
  decide +kernel

end Placeholder.Engine
