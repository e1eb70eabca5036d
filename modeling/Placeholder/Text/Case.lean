import Placeholder.Text.Cased
import Placeholder.Text.CaseTable

/-!
# Upper and lower case

The case forms of whole texts.  A character may become several, and one letter looks around
itself: a capital sigma becomes the final form `ς` where it ends a word and `σ` elsewhere.
-/

namespace Placeholder.Text

/-- The form of a character that the two tables give: the longer form if there is one, else the
form of one character, else the character itself. -/
def caseForm (expansions : List (Nat × List Nat)) (runs : List CaseRun) (c : Char) : List Char :=
  match expansions.lookup c.toNat with
  | some points => points.map Char.ofNat
  | none =>
    match runs.findSome? (·.map? c.toNat) with
    | some point => [Char.ofNat point]
    | none => [c]

/-- The text in uppercase. -/
def upper (cs : List Char) : List Char :=
  cs.flatMap (caseForm upperExpansions upperRuns)

/-- Whether a character that has a case comes first, past those that case rules ignore. -/
def startsCased (cs : List Char) : Bool :=
  match cs.dropWhile caseIgnorable.contains with
  | [] => false
  | c :: _ => cased.contains c

/-- The lowercase form of a character between two texts, the earlier one given from its end back.
A capital sigma is final after a letter that no letter follows. -/
def lowerBetween (before : List Char) (c : Char) (after : List Char) : List Char :=
  if c = 'Σ' then
    if startsCased before && !startsCased after then ['ς'] else ['σ']
  else
    caseForm lowerExpansions lowerRuns c

/-- The lowercase form of what follows a text, which is given from its end back. -/
def lowerAfter (before : List Char) : List Char → List Char
  | [] => []
  | c :: rest => lowerBetween before c rest ++ lowerAfter (c :: before) rest

/-- The text in lowercase. -/
def lower (cs : List Char) : List Char := lowerAfter [] cs

end Placeholder.Text
