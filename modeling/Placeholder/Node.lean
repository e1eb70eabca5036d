import Placeholder.Value

/-!
# Structures

A structure is a scalar, a map from texts that keeps its order, or a list.  Templates are
structures whose string leaves hold placeholders.
-/

namespace Placeholder

/-- A structure. -/
inductive Node where
  | scalar (value : Value)
  | map (entries : List (String × Node))
  | list (items : List Node)

instance : Inhabited Node := ⟨.scalar .null⟩

namespace Node

def isMap : Node → Bool
  | .map _ => true
  | _ => false

def isList : Node → Bool
  | .list _ => true
  | _ => false

def value? : Node → Option Value
  | .scalar v => some v
  | _ => none

def entries? : Node → Option (Entries Node)
  | .map entries => some entries
  | _ => none

def items? : Node → Option (List Node)
  | .list items => some items
  | _ => none

/-- The text of a string leaf. -/
def string? (node : Node) : Option String := node.value?.bind Value.string?

/-- The child of a map under a key. -/
def get? (node : Node) (key : String) : Option Node :=
  node.entries?.bind fun entries => Entries.get? entries key

/-- The map with a child put under a key.  Anything else stays as it is. -/
def insert (node : Node) (key : String) (child : Node) : Node :=
  match node with
  | .map entries => .map (Entries.insert entries key child)
  | other => other

/-- The map of a list of entries, of which a later one replaces an earlier one with its key. -/
def ofEntries (entries : List (String × Node)) : Node := .map (Entries.ofList entries)

/-! ## JSON -/

mutual

/-- The structure that a JSON value is. -/
def ofJson : Json → Node
  | .array items => .list (itemsOfJson items)
  | .object fields => .map (entriesOfJson fields)
  | leaf => .scalar ((Value.ofJson? leaf).toOption.getD .null)

/-- The items of an array, one by one. -/
def itemsOfJson : List Json → List Node
  | [] => []
  | item :: rest => ofJson item :: itemsOfJson rest

/-- The fields of an object, one by one.  They stay in their list; where no key comes twice, that is
the same as collecting them into a new map (`ofJson_object_of_distinct`). -/
def entriesOfJson : List (String × Json) → List (String × Node)
  | [] => []
  | (key, field) :: rest => (key, ofJson field) :: entriesOfJson rest

end

mutual

/-- The structure as JSON. -/
def toJson : Node → Json
  | .scalar v => v.toJson
  | .map entries => .object (entriesToJson entries)
  | .list items => .array (itemsToJson items)

/-- The items of a list, one by one. -/
def itemsToJson : List Node → List Json
  | [] => []
  | item :: rest => toJson item :: itemsToJson rest

/-- The entries of a map, one by one.  They stay in their list; where no key comes twice, that is
the same as collecting them into a new object (`toJson_map_of_distinct`). -/
def entriesToJson : List (String × Node) → List (String × Json)
  | [] => []
  | (key, child) :: rest => (key, toJson child) :: entriesToJson rest

end

/-! ## Equality -/

mutual

/-- Whether two structures are equal as data.  Maps may differ in the order of their entries, and a
double that is no number is equal to nothing. -/
def agrees : Node → Node → Bool
  | .scalar v, .scalar w => v.agrees w
  | .map entries, .map others => entries.length == others.length && entriesAgree entries others
  | .list items, .list others => itemsAgree items others
  | _, _ => false

/-- Whether every entry is equal to the one under the same key. -/
def entriesAgree : List (String × Node) → List (String × Node) → Bool
  | [], _ => true
  | (key, child) :: rest, others =>
    (match others.lookup key with
      | some other => agrees child other
      | none => false)
      && entriesAgree rest others

/-- Whether the items are equal one by one. -/
def itemsAgree : List Node → List Node → Bool
  | [], [] => true
  | item :: rest, other :: others => agrees item other && itemsAgree rest others
  | _, _ => false

end

end Node

end Placeholder
