import Placeholder.Text.Blank
import Placeholder.Text.Bytes

/-!
# Tokens

A token is a placeholder in a text.  It has one of the forms

    {{ name }}    {{ name: parameter }}    {{ name | chain }}    {{ name: parameter | chain }}

The name is a run of ASCII letters, digits and underscores.  The parameter runs up to the first bar
and the chain up to the closing braces; neither holds a closing brace, neither is empty, and both
are trimmed once they are found.  Blanks may stand around the name and before the closing braces.

Everything between the braces is read first, up to the first closing brace, so that there is at
most one token at any place of a text.
-/

namespace Placeholder

/-- A token found in a text. -/
structure Token where
  /-- The token as it is written, with its braces. -/
  raw : String
  name : String
  parameter : Option String
  modifiers : Option String
  /-- The place of the token in the text, in bytes of its UTF-8 form. -/
  start : Nat
  /-- The place just after the token. -/
  stop : Nat
  deriving DecidableEq

/-- Whether the character can stand in a name. -/
def isWordChar (c : Char) : Bool := c.isAlphanum || c = '_'

/-- What stands between the braces of a token. -/
structure TokenBody where
  name : List Char
  parameter : Option (List Char)
  modifiers : Option (List Char)
  deriving DecidableEq

namespace TokenBody

/-- The chain after a bar, which must not be empty. -/
def ofChain (name : List Char) (parameter : Option (List Char)) (chain : List Char) :
    Option TokenBody :=
  if chain.isEmpty then none else some ⟨name, parameter, some (Text.trim chain)⟩

/-- What follows the name and its blanks: nothing, a parameter after a colon, a chain after a bar,
or both. -/
def ofRest (name : List Char) : List Char → Option TokenBody
  | [] => some ⟨name, none, none⟩
  | ':' :: rest =>
    let parameter := rest.takeWhile (· ≠ '|')
    if parameter.isEmpty then none
    else
      match rest.dropWhile (· ≠ '|') with
      | [] => some ⟨name, some (Text.trim parameter), none⟩
      | _ :: chain => ofChain name (some (Text.trim parameter)) chain
  | '|' :: chain => ofChain name none chain
  | _ => none

/-- The text between the braces, which holds no closing brace. -/
def read? (inner : List Char) : Option TokenBody :=
  let rest := Text.trimStart inner
  let name := rest.takeWhile isWordChar
  if name.isEmpty then none
  else ofRest name (Text.trimStart (rest.dropWhile isWordChar))

end TokenBody

namespace Token

/-- The token with the given text between its braces, at a place of a text. -/
def ofBody (start : Nat) (inner : List Char) (body : TokenBody) : Token :=
  let raw := '{' :: '{' :: inner ++ ['}', '}']
  { raw := String.ofList raw
    name := String.ofList body.name
    parameter := body.parameter.map String.ofList
    modifiers := body.modifiers.map String.ofList
    start
    stop := start + Text.utf8Length raw }

/-- The token in front of a text that begins at the given place, and the text after the token. -/
def front? (start : Nat) : List Char → Option (Token × List Char)
  | '{' :: '{' :: cs =>
    let inner := cs.takeWhile (· ≠ '}')
    match cs.dropWhile (· ≠ '}') with
    | '}' :: '}' :: rest => (TokenBody.read? inner).map fun body => (ofBody start inner body, rest)
    | _ => none
  | _ => none

/-- What comes after a token is shorter than the text with it. -/
theorem length_lt_of_front? {start : Nat} {cs : List Char} {token : Token} {rest : List Char}
    (h : front? start cs = some (token, rest)) : rest.length < cs.length := by
  unfold front? at h
  split at h
  · next cs =>
    dsimp only at h
    split at h
    · next rest' hrest =>
      obtain ⟨body, -, hbody⟩ := Option.map_eq_some_iff.1 h
      obtain ⟨-, rfl⟩ := Prod.mk.inj hbody
      have hlen := congrArg List.length (List.takeWhile_append_dropWhile (p := (· ≠ '}')) (l := cs))
      rw [hrest] at hlen
      simp only [List.length_append, List.length_cons] at hlen ⊢
      omega
    · simp at h
  · simp at h

/-- The text as one token, if it is nothing else. -/
def ofText? (text : String) : Option Token :=
  match front? 0 text.toList with
  | some (token, []) => some token
  | _ => none

end Token

/-! ## Chains -/

/-- One entry of a chain: the name of a modifier, and whether the entry is passed over where there
is nothing to modify. -/
structure Step where
  name : String
  optional : Bool
  deriving DecidableEq

/-- A chain entry as it is written.  Question marks in front make it optional. -/
def Step.parse (entry : List Char) : Step :=
  let entry := Text.trim entry
  { name := String.ofList (entry.dropWhile (· = '?'))
    optional := entry.head? = some '?' }

/-- The entries of the token's chain, in the order in which they are applied. -/
def Token.steps (token : Token) : List Step :=
  match token.modifiers with
  | none => []
  | some chain => (chain.toList.splitOn '|').map Step.parse

end Placeholder
