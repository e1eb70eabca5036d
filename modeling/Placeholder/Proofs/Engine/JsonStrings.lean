import Mathlib.Data.List.Forall2
import Placeholder.Modifier.BuiltIn
import Placeholder.Proofs.Engine.Locality
import Placeholder.Proofs.Value.PlainText

/-!
# Values inside JSON strings

A template may have its tokens between the quotes of a JSON string.  If the final modifier is the
one for JSON strings, then each token gives a text that stays between the quotes and stands for the
text that the token gives without the modifier.  The modifier writes a string as a JSON string and
takes its quotes off, which leaves the escaped text (`unquote_literal`).  The other values do not go
through it, but their texts need no escape.

Two engines that differ only in the final modifier are compared: they do the same up to that
modifier (`resolveToken_eq`), and since the modifier leaves the state alone, so they do from token
to token (`jsonFor_mapM`).

Main statement: `fillText_jsonFor_exact`.
-/

namespace Placeholder.Engine

open Text.JsonString

variable {σ : Type}

/-- The engine without its final modifier. -/
def withoutFinal (engine : Engine σ) : Engine σ := { engine with finalModifier := none }

/-- The texts that are put in the places of a template's tokens. -/
def placedTexts (engine : Engine σ) (template : String) : Session σ (List String) :=
  (Token.allIn template).mapM fun token => textOf (resolveToken engine token)

/-- Between two quotes the first text is a JSON string that stands for the second. -/
def JsonFor (placed content : String) : Prop := StandsFor placed.toList content.toList

/-- A session for each item gives a result for each item. -/
theorem length_mapM_run {α β : Type} (f : α → Session σ β) (items : List α) (state : σ) :
    ((items.mapM f).run state).result.length = items.length := by
  induction items generalizing state with
  | nil => rfl
  | cons item rest ih =>
    simp only [List.mapM_cons, Session.run_bind, Session.run_pure, List.length_cons, ih]

/-! ## The final modifier as a last stage -/

section

variable (engine : Engine σ) (token : Token)

theorem applySteps_withoutFinal (value : Value) (steps : List Step) :
    applySteps engine.withoutFinal token value steps = applySteps engine token value steps := by
  induction steps generalizing value with
  | nil => rfl
  | cons step rest ih =>
    rw [applySteps, applySteps]
    exact congrArg (applyStep engine token value step >>= ·) (funext ih)

/-- The final modifier is applied to what the engine gives without it. -/
theorem resolveToken_eq :
    resolveToken engine token =
      resolveToken engine.withoutFinal token >>= applyFinal engine token := by
  have hfinal : ∀ value, applyFinal engine.withoutFinal token value = pure value := fun _ => rfl
  simp only [resolveToken, bind_assoc, hfinal, pure_bind, applySteps_withoutFinal]
  rfl

end

/-! ## Escaped texts -/

/-- What the modifier for JSON strings makes of a value has the escaped text of the value. -/
theorem jsonFor_escapeJson (value : Value) : JsonFor value.escapeJson.text value.text := by
  have htext : value.escapeJson.text.toList = escape value.text.toList := by
    cases hvalue : value.isString with
    | true =>
      cases value with
      | string s =>
        change (String.ofList (unquote (literal s.toList))).toList = escape s.toList
        rw [unquote_literal, String.toList_ofList]
      | integer | float | boolean | null => simp [Value.isString] at hvalue
    | false =>
      have hsame : value.escapeJson = value := by
        cases value with
        | string s => simp [Value.isString] at hvalue
        | integer | float | boolean | null => rfl
      rw [hsame, escape_of_plain (Value.plainText_text hvalue)]
  rw [JsonFor, htext]
  exact standsFor_escape _

section

variable {engine : Engine σ}
  (hfinal : engine.finalModifier = some BuiltInModifier.jsonSubString.toModifier)

include hfinal

/-- The modifier refuses no value and leaves the state alone, and a value that does not go through
it is what the modifier would make of it. -/
theorem applyFinal_jsonSubString (token : Token) (value : Value) (state : σ) :
    ((applyFinal engine token value).run state).result = value.escapeJson ∧
      ((applyFinal engine token value).run state).state = state := by
  rw [applyFinal, hfinal]
  cases value with
  | string s => exact ⟨rfl, rfl⟩
  | integer | float | boolean | null => exact ⟨rfl, rfl⟩

theorem jsonFor_resolveToken (token : Token) (state : σ) :
    let placed := (textOf (resolveToken engine token)).run state
    let content := (textOf (resolveToken engine.withoutFinal token)).run state
    JsonFor placed.result content.result ∧ placed.state = content.state := by
  rw [resolveToken_eq engine token]
  simp only [run_textOf, Session.run_bind]
  obtain ⟨hresult, hstate⟩ := applyFinal_jsonSubString hfinal token
    ((resolveToken engine.withoutFinal token).run state).result
    ((resolveToken engine.withoutFinal token).run state).state
  rw [hresult, hstate]
  exact ⟨jsonFor_escapeJson _, rfl⟩

/-- Token by token, both engines go on in the same state. -/
theorem jsonFor_mapM (tokens : List Token) (state : σ) :
    let placed := (tokens.mapM fun token => textOf (resolveToken engine token)).run state
    let content :=
      (tokens.mapM fun token => textOf (resolveToken engine.withoutFinal token)).run state
    List.Forall₂ JsonFor placed.result content.result ∧ placed.state = content.state := by
  induction tokens generalizing state with
  | nil => exact ⟨.nil, rfl⟩
  | cons token rest ih =>
    obtain ⟨htext, hstate⟩ := jsonFor_resolveToken hfinal token state
    obtain ⟨htexts, hend⟩ := ih ((textOf (resolveToken engine.withoutFinal token)).run state).state
    simp only [List.mapM_cons, Session.run_bind, Session.run_pure]
    rw [hstate]
    exact ⟨.cons htext htexts, hend⟩

end

/-- Whatever the macros, the modifiers, the fallback and the state of an engine whose final modifier
is the one for JSON strings, the text that a token gives makes a JSON string between two quotes,
which ends where the second quote is whatever comes after it, and which stands for the text that the
token gives in the engine without the final modifier.  So it is for all tokens of a template, one
after the other, and the texts are put in the places of the tokens as they are. -/
theorem fillText_jsonFor_exact (engine : Engine σ)
    (hfinal : engine.finalModifier = some BuiltInModifier.jsonSubString.toModifier)
    (template : String) (state : σ) :
    (∀ token,
      let placed := (resolveToken engine token).run state
      let content := (resolveToken engine.withoutFinal token).run state
      JsonFor placed.result.text content.result.text ∧ placed.state = content.state) ∧
    let placed := (placedTexts engine template).run state
    let content := (placedTexts engine.withoutFinal template).run state
    ((fillText engine template).run state).result = Token.spliceText template placed.result ∧
    ((fillText engine.withoutFinal template).run state).result =
      Token.spliceText template content.result ∧
    placed.result.length = (Token.allIn template).length ∧
    List.Forall₂ JsonFor placed.result content.result ∧
    placed.state = content.state := by
  have htemplate : ∀ other : Engine σ, ((fillText other template).run state).result =
      Token.spliceText template ((placedTexts other template).run state).result := by
    intro other
    rw [fillText_eq_embedText]
    rfl
  refine ⟨fun token => ?_, htemplate engine, htemplate engine.withoutFinal,
    length_mapM_run _ _ _, jsonFor_mapM hfinal _ state⟩
  have htoken := jsonFor_resolveToken hfinal token state
  simp only [run_textOf] at htoken
  exact htoken

/-- A text with quotes, a backslash and a line end, placed in a JSON object. -/
theorem fillText_jsonFor_object :
    let spoken : Value := .string "\"a\\\n"
    let engine : Engine Unit :=
      { fallback := (BuiltInMacro.constant spoken "string" "").toMacro
        finalModifier := some BuiltInModifier.jsonSubString.toModifier }
    let template := "\x7b\"value\": \"{{ m }}\"\x7d"
    ((fillText engine template).run ()).result = "\x7b\"value\": \"\\\"a\\\\\\n\"\x7d" ∧
      List.Forall₂ JsonFor ["\\\"a\\\\\\n"] ["\"a\\\n"] := by
  intro spoken engine template
  have hplaced : ((placedTexts engine template).run ()).result = ["\\\"a\\\\\\n"] := by
    decide +kernel
  have hcontent :
      ((placedTexts engine.withoutFinal template).run ()).result = ["\"a\\\n"] := by
    decide +kernel
  obtain ⟨-, hfill, -, -, htexts, -⟩ := fillText_jsonFor_exact engine rfl template ()
  rw [hplaced] at hfill htexts
  rw [hcontent] at htexts
  exact ⟨hfill.trans (by decide +kernel), htexts⟩

end Placeholder.Engine
