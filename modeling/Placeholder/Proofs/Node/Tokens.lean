import Placeholder.Node.Place
import Placeholder.Token.Scan

/-!
# The tokens of a structure

All tokens in the string leaves of a structure, in document order and from left to right in each
leaf, and the names that these tokens mention.  The lists are made from the texts of the structure
(`Node.texts`), without a walk that validates or resolves.
-/

namespace Placeholder.Node

/-- The tokens of some texts, one text after the other. -/
def tokensIn (texts : List PlacedText) : List Token :=
  texts.flatMap fun placed => Token.allIn placed.text

/-- The tokens in the string leaves. -/
def tokens (node : Node) : List Token := tokensIn node.texts

/-- The names of the tokens, one for each token. -/
def macroNames (node : Node) : List String := node.tokens.map Token.name

/-- The names in the chains of the tokens, one for each entry. -/
def modifierNames (node : Node) : List String :=
  node.tokens.flatMap fun token => token.steps.map Step.name

@[simp] theorem tokensIn_append (first second : List PlacedText) :
    tokensIn (first ++ second) = tokensIn first ++ tokensIn second :=
  List.flatMap_append

/-- The way to a text does not count for its tokens. -/
@[simp] theorem tokensIn_map_inside (texts : List PlacedText) (segment : Segment) :
    tokensIn (texts.map (·.inside segment)) = tokensIn texts := by
  rw [tokensIn, List.flatMap_map]
  rfl

theorem mem_tokens {node : Node} {placed : PlacedText} {token : Token}
    (hplaced : placed ∈ node.texts) (htoken : token ∈ Token.allIn placed.text) :
    token ∈ node.tokens :=
  List.mem_flatMap.2 ⟨placed, hplaced, htoken⟩

theorem name_mem_macroNames {node : Node} {token : Token} (htoken : token ∈ node.tokens) :
    token.name ∈ node.macroNames :=
  List.mem_map.2 ⟨token, htoken, rfl⟩

theorem name_mem_modifierNames {node : Node} {token : Token} {step : Step}
    (htoken : token ∈ node.tokens) (hstep : step ∈ token.steps) :
    step.name ∈ node.modifierNames :=
  List.mem_flatMap.2 ⟨token, htoken, List.mem_map.2 ⟨step, hstep, rfl⟩⟩

theorem tokens_text (template : String) :
    (Node.scalar (.string template)).tokens = Token.allIn template := by
  rw [tokens, texts, tokensIn, List.flatMap_singleton]

/-- The tokens of a map are those of its children, one entry after the other. -/
theorem tokensIn_textsOfEntries_cons (key : String) (child : Node)
    (rest : List (String × Node)) :
    tokensIn (textsOfEntries ((key, child) :: rest)) =
      child.tokens ++ tokensIn (textsOfEntries rest) := by
  rw [textsOfEntries, tokensIn_append, tokensIn_map_inside, tokens]

/-- The tokens of a list are those of its items, one item after the other. -/
theorem tokensIn_textsOfItems_cons (position : Nat) (item : Node) (rest : List Node) :
    tokensIn (textsOfItems position (item :: rest)) =
      item.tokens ++ tokensIn (textsOfItems (position + 1) rest) := by
  rw [textsOfItems, tokensIn_append, tokensIn_map_inside, tokens]

end Placeholder.Node
