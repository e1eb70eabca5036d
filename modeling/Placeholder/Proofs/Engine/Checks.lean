import Placeholder.Engine.Validate
import Placeholder.Proofs.Node.Tokens

/-!
# Checks

What the walk that validates does besides finding errors: it asks one macro about each token, notes
the token's name, and leaves the state alone.  `LooksAt` says so of any part of the walk with the
tokens that the part is for, and of two parts in sequence with the tokens of both
(`LooksAt.andThen`).

Main statement: the walk over a structure looks at the tokens of its texts, each once and in
document order, whether or not their macros are registered and their parameters accepted
(`looksAt_checkNode`).
-/

namespace Placeholder.Engine

open Node (tokensIn textsOfEntries textsOfItems)

variable {σ : Type}

/-- The question about the token's parameter, to the macro for its name. -/
def checkOf (engine : Engine σ) (token : Token) : Event :=
  .checked (engine.macroFor token.name).1 token.name token.parameter

/-- The session asks about the tokens one after the other, notes their names, and does nothing
else. -/
structure LooksAt (engine : Engine σ) (tokens : List Token) (session : Session σ Findings) :
    Prop where
  names (state : σ) : (session.run state).result.names = tokens.map Token.name
  state (state : σ) : (session.run state).state = state
  events (state : σ) : (session.run state).events = tokens.map engine.checkOf

theorem LooksAt.nothing (engine : Engine σ) : LooksAt engine [] (pure {}) where
  names _ := rfl
  state _ := rfl
  events _ := rfl

/-- One part after the other looks at the tokens of both, also where the findings of the first are
seen from elsewhere. -/
theorem LooksAt.andThen {engine : Engine σ} {tokens others : List Token}
    {first second : Session σ Findings} (hfirst : LooksAt engine tokens first)
    (hsecond : LooksAt engine others second) (seen : Findings → Findings)
    (hseen : ∀ findings, (seen findings).names = findings.names) :
    LooksAt engine (tokens ++ others) (do
      let before ← first
      let after ← second
      return (seen before).append after) where
  names state := by
    simp only [Session.run_bind, Session.run_pure, Findings.append, hseen, hfirst.names,
      hsecond.names, List.map_append]
  state state := by
    simp only [Session.run_bind, Session.run_pure, hfirst.state, hsecond.state]
  events state := by
    simp only [Session.run_bind, Session.run_pure, hfirst.events, hsecond.events,
      List.map_append, List.append_nil]

section Walk

variable (engine : Engine σ)

theorem looksAt_checkToken (token : Token) :
    LooksAt engine [token] (checkToken engine token) := by
  constructor
  all_goals
    intro state
    rw [checkToken, Session.run_bind, run_askMacro]
    cases (engine.macroFor token.name).2.check token.parameter <;> rfl

theorem looksAt_checkTokens (tokens : List Token) :
    LooksAt engine tokens (checkTokens engine tokens) := by
  induction tokens with
  | nil => exact .nothing engine
  | cons token rest ih => exact (looksAt_checkToken engine token).andThen ih id fun _ => rfl

mutual

theorem looksAt_checkNode : ∀ node : Node, LooksAt engine node.tokens (checkNode engine node)
  | .scalar v => by
    cases v with
    | string template =>
      rw [Node.tokens_text]
      exact looksAt_checkTokens engine (Token.allIn template)
    | integer | float | boolean | null => exact .nothing engine
  | .map entries => looksAt_checkEntries entries
  | .list items => looksAt_checkItems 0 items

theorem looksAt_checkEntries : ∀ entries : List (String × Node),
    LooksAt engine (tokensIn (textsOfEntries entries)) (checkEntries engine entries)
  | [] => .nothing engine
  | (key, child) :: rest => by
    rw [Node.tokensIn_textsOfEntries_cons]
    exact (looksAt_checkNode child).andThen (looksAt_checkEntries rest)
      (·.inside (.key key)) fun _ => rfl

theorem looksAt_checkItems : ∀ (position : Nat) (items : List Node),
    LooksAt engine (tokensIn (textsOfItems position items)) (checkItems engine position items)
  | _, [] => .nothing engine
  | position, item :: rest => by
    rw [Node.tokensIn_textsOfItems_cons]
    exact (looksAt_checkNode item).andThen (looksAt_checkItems (position + 1) rest)
      (·.inside (.index position)) fun _ => rfl

end

end Walk

end Placeholder.Engine
