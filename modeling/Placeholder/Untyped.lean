import Placeholder.Node

/-!
# Data that describes itself

Data read from JSON or from a structure before it is known what it should become: whole numbers of
any size, doubles of any kind, texts, lists and maps.  From here a value or a structure is read by
trying its kinds one after the other, and the first that accepts the data wins; written, the data
becomes JSON.
-/

namespace Placeholder

/-- Data whose purpose is not known yet. -/
inductive Untyped where
  | null
  | boolean (b : Bool)
  | integer (i : Int)
  | float (x : Binary64)
  | string (s : String)
  | list (items : List Untyped)
  | map (entries : List (String × Untyped))
  deriving Inhabited

namespace Untyped

/-! ## Sources -/

mutual

/-- The data of a JSON value. -/
def ofJson : Json → Untyped
  | .null => .null
  | .boolean b => .boolean b
  | .integer i => .integer i
  | .float x => .float x
  | .string s => .string s
  | .array items => .list (itemsOfJson items)
  | .object fields => .map (entriesOfJson fields)

/-- The items of an array, one by one. -/
def itemsOfJson : List Json → List Untyped
  | [] => []
  | item :: rest => ofJson item :: itemsOfJson rest

/-- The fields of an object, one by one. -/
def entriesOfJson : List (String × Json) → List (String × Untyped)
  | [] => []
  | (key, field) :: rest => (key, ofJson field) :: entriesOfJson rest

end

/-- The data of a scalar. -/
def ofValue : Value → Untyped
  | .string s => .string s
  | .integer i => .integer i.toInt
  | .float x => .float x
  | .boolean b => .boolean b
  | .null => .null

mutual

/-- The data of a structure. -/
def ofNode : Node → Untyped
  | .scalar v => ofValue v
  | .map entries => .map (entriesOfNode entries)
  | .list items => .list (itemsOfNode items)

/-- The items of a list, one by one. -/
def itemsOfNode : List Node → List Untyped
  | [] => []
  | item :: rest => ofNode item :: itemsOfNode rest

/-- The entries of a map, one by one. -/
def entriesOfNode : List (String × Node) → List (String × Untyped)
  | [] => []
  | (key, child) :: rest => (key, ofNode child) :: entriesOfNode rest

end

/-! ## Writing -/

mutual

/-- The data as JSON.  A double that is no number becomes null. -/
def toJson : Untyped → Json
  | .null => .null
  | .boolean b => .boolean b
  | .integer i => .integer i
  | .float x => Json.ofBinary64 x
  | .string s => .string s
  | .list items => .array (itemsToJson items)
  | .map entries => .object (entriesToJson entries)

/-- The items of a list, one by one. -/
def itemsToJson : List Untyped → List Json
  | [] => []
  | item :: rest => toJson item :: itemsToJson rest

/-- The entries of a map, one by one. -/
def entriesToJson : List (String × Untyped) → List (String × Json)
  | [] => []
  | (key, child) :: rest => (key, toJson child) :: entriesToJson rest

end

/-! ## Reading one kind -/

def string? : Untyped → Option String
  | .string s => some s
  | _ => none

/-- A whole number in the range of an integer value. -/
def integer? : Untyped → Option Int64
  | .integer i => if Value.fitsInteger i then some (Int64.ofInt i) else none
  | _ => none

/-- A double, or a whole number as the nearest double. -/
def float? : Untyped → Option Binary64
  | .float x => some x
  | .integer i => some (Binary64.ofInt i)
  | _ => none

def boolean? : Untyped → Option Bool
  | .boolean b => some b
  | _ => none

def null? : Untyped → Option Unit
  | .null => some ()
  | _ => none

/-- The scalar that the data is: a text, an integer, a double, a boolean or null, whichever accepts
the data first. -/
def value? (data : Untyped) : Option Value :=
  data.string?.map .string <|> data.integer?.map .integer <|> data.float?.map .float
    <|> data.boolean?.map .boolean <|> data.null?.map fun _ => .null

mutual

/-- The structure that the data is: a scalar, a map or a list, whichever accepts the data first. -/
def node? : Untyped → Option Node
  | .map entries => (value? (.map entries)).map .scalar <|> (entries? entries).map .map
  | .list items => (value? (.list items)).map .scalar <|> (items? items).map .list
  | leaf => (value? leaf).map .scalar

/-- The entries of a map, if each is a structure. -/
def entries? : List (String × Untyped) → Option (List (String × Node))
  | [] => some []
  | (key, child) :: rest => do
    let child ← node? child
    let rest ← entries? rest
    return (key, child) :: rest

/-- The items of a list, if each is a structure. -/
def items? : List Untyped → Option (List Node)
  | [] => some []
  | item :: rest => do
    let item ← node? item
    let rest ← items? rest
    return item :: rest

end

end Untyped

end Placeholder
