import Placeholder.Token.Basic

/-!
# Finding and replacing tokens

A text is cut into its tokens and the characters between them, from the left: at each place a
token is taken if there is one, else one character.  What a token is replaced by is not looked at
again.
-/

namespace Placeholder

/-- A piece of a text: a token, or a character that belongs to none. -/
inductive Piece where
  | gap (c : Char)
  | found (token : Token)
  deriving DecidableEq

namespace Piece

def token? : Piece → Option Token
  | .gap _ => none
  | .found token => some token

/-- The pieces of a text that begins at the given place. -/
def ofText (start : Nat) (cs : List Char) : List Piece :=
  match _h : Token.front? start cs with
  | some (token, rest) => .found token :: ofText token.stop rest
  | none =>
    match cs with
    | [] => []
    | c :: rest => .gap c :: ofText (start + c.utf8Size) rest
termination_by cs.length
decreasing_by
  · exact Token.length_lt_of_front? _h
  · simp

/-- The text of the pieces, with a text for each token.  The texts are asked for one by one. -/
def fill {m : Type → Type} [Monad m] (render : Token → m String) : List Piece → m (List Char)
  | [] => pure []
  | .gap c :: rest => do
    let after ← fill render rest
    return c :: after
  | .found token :: rest => do
    let text ← render token
    let after ← fill render rest
    return text.toList ++ after

end Piece

/-- What replacing the tokens of a text gives: the text as it is, if there is nothing to replace, or
a text that is built anew. -/
inductive Replaced where
  | kept (text : String)
  | rebuilt (text : String)
  deriving DecidableEq

/-- The text in either case. -/
def Replaced.text : Replaced → String
  | .kept text => text
  | .rebuilt text => text

namespace Token

/-- The tokens of a text, from left to right. -/
def allIn (text : String) : List Token :=
  (Piece.ofText 0 text.toList).filterMap Piece.token?

/-- Whether a token stands somewhere in a text. -/
def standsIn : List Char → Bool
  | [] => false
  | c :: rest => (front? 0 (c :: rest)).isSome || standsIn rest

/-- Whether the text has a token. -/
def occursIn (text : String) : Bool := standsIn text.toList

/-- The text with each token replaced by what is rendered for it. -/
def replaceM {m : Type → Type} [Monad m] (text : String) (render : Token → m String) :
    m String := do
  let filled ← Piece.fill render (Piece.ofText 0 text.toList)
  return String.ofList filled

/-- The same, with a note of whether there was anything to replace. -/
def substituteM {m : Type → Type} [Monad m] (text : String) (render : Token → m String) :
    m Replaced :=
  if (allIn text).isEmpty then return .kept text
  else do
    let filled ← replaceM text render
    return .rebuilt filled

end Token

end Placeholder
