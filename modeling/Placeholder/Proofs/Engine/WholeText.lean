import Placeholder.Engine.Resolve
import Placeholder.Proofs.Token.Filling

/-!
# Whole texts

A template that is exactly one token becomes the value of the token, any other template becomes a
text.  `embedText` treats every template in the second way: it resolves the tokens that a scan
finds and puts the texts of their values in their places.

Main statement: the two ways differ only in whether the value is turned into its text
(`resolveText_exact`).
-/

namespace Placeholder.Engine

variable {σ : Type}

/-- The template with each token that a scan finds replaced by the text of its value, and the rest
copied, even if the template is exactly one token. -/
def embedText (engine : Engine σ) (template : String) : Session σ String := do
  let texts ← (Token.allIn template).mapM fun token => do
    let value ← resolveToken engine token
    return value.text
  return Token.spliceText template texts

theorem fillText_eq_embedText (engine : Engine σ) (template : String) :
    fillText engine template = embedText engine template :=
  Token.replaceM_eq_splice template _

/-- A text that is one token from end to end has nothing to copy. -/
theorem spliceText_of_whole {template text : String} {token : Token}
    (h : Token.allIn template = [token]) (hstart : token.start = 0)
    (hstop : token.stop = template.utf8ByteSize) : Token.spliceText template [text] = text := by
  have hafter : Text.slice 0 token.stop (Text.utf8Length template.toList) template.toList = [] := by
    rw [Text.slice_eq_nil_of_le]
    rw [hstop, Text.utf8Length_toList, Nat.zero_add]
  have hbefore : Text.slice 0 0 token.start template.toList = [] := by
    rw [hstart, Text.slice_eq_nil_of_last_le (Nat.le_refl 0)]
  rw [Token.spliceText, h, List.zip_cons_cons, List.zip_nil_left, Token.splice, Token.splice,
    hbefore, hafter, List.nil_append, List.append_nil, String.ofList_toList]

section

variable (engine : Engine σ) {template : String} {token : Token}

theorem resolveText_of_whole (h : Token.ofText? template = some token) :
    resolveText engine template = resolveToken engine token := by
  rw [resolveText, h]

/-- Of a text that is one token, embedding resolves the token and keeps the text of its value. -/
theorem embedText_of_whole (h : Token.ofText? template = some token) (state : σ) :
    (embedText engine template).run state =
      let outcome := (resolveToken engine token).run state
      { outcome with result := outcome.result.text } := by
  obtain ⟨hall, hstart, hstop⟩ := (Token.ofText?_eq_some_iff_allIn template token).1 h
  rw [embedText, hall, List.mapM_cons, List.mapM_nil]
  simp only [bind_assoc, pure_bind, spliceText_of_whole hall hstart hstop, Session.run_bind,
    Session.run_pure, List.append_nil]

/-- A text that is not one token becomes the string that embedding gives. -/
theorem resolveText_of_not_whole (h : Token.ofText? template = none) (state : σ) :
    (resolveText engine template).run state =
      let embedded := (embedText engine template).run state
      { embedded with result := .string embedded.result } := by
  rw [resolveText, h, fillText_eq_embedText]
  simp only [Session.run_bind, Session.run_pure, List.append_nil]

end

/-- Whatever the engine, its state and the template, resolving the template does the same things in
the same order as embedding all its tokens does, leaves the same state, and gives a value with the
same text.  The value is something other than a string only if the template is exactly one token,
and then it is the value of the token as it is. -/
theorem resolveText_exact (engine : Engine σ) (template : String) (state : σ) :
    let outcome := (resolveText engine template).run state
    let embedded := (embedText engine template).run state
    outcome.result.text = embedded.result ∧
    outcome.state = embedded.state ∧
    outcome.events = embedded.events ∧
    outcome.warnings = embedded.warnings ∧
    (outcome.result.isString = false → ∃ token, Token.allIn template = [token] ∧
      token.start = 0 ∧ token.stop = template.utf8ByteSize) ∧
    (∀ token, Token.allIn template = [token] → token.start = 0 →
      token.stop = template.utf8ByteSize → outcome = (resolveToken engine token).run state) := by
  intro outcome embedded
  have hwhole : ∀ token, Token.allIn template = [token] → token.start = 0 →
      token.stop = template.utf8ByteSize → outcome = (resolveToken engine token).run state := by
    intro token hall hstart hstop
    have htoken := (Token.ofText?_eq_some_iff_allIn template token).2 ⟨hall, hstart, hstop⟩
    show (resolveText engine template).run state = (resolveToken engine token).run state
    rw [resolveText_of_whole engine htoken]
  cases h : Token.ofText? template with
  | some token =>
    obtain ⟨hall, hstart, hstop⟩ := (Token.ofText?_eq_some_iff_allIn template token).1 h
    have hembedded : embedded = { outcome with result := outcome.result.text } := by
      rw [hwhole token hall hstart hstop]
      exact embedText_of_whole engine h state
    rw [hembedded]
    exact ⟨rfl, rfl, rfl, rfl, fun _ => ⟨token, hall, hstart, hstop⟩, hwhole⟩
  | none =>
    have houtcome : outcome = { embedded with result := .string embedded.result } :=
      resolveText_of_not_whole engine h state
    have hstring : outcome.result.isString = true := by
      rw [houtcome]
      rfl
    rw [hstring, houtcome]
    exact ⟨rfl, rfl, rfl, rfl, fun hother => by simp at hother, houtcome ▸ hwhole⟩

end Placeholder.Engine
