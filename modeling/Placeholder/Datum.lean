import Placeholder.Path

/-!
# Typed data

What comes out of reading a structure as a type, and how it is written back: each datum has one
form as data that describes itself, and so one form as JSON.
-/

namespace Placeholder

/-- A typed datum. -/
inductive Datum where
  | unit
  | boolean (b : Bool)
  | integer (i : Int)
  | float (x : Binary64)
  | character (c : Char)
  | string (s : String)
  | absent
  | present (datum : Datum)
  /-- A list, a tuple or an array. -/
  | series (items : List Datum)
  | record (fields : List (String × Datum))
  /-- A map in the order of its keys. -/
  | map (entries : List (String × Datum))
  /-- A variant without data. -/
  | choice (variant : String)
  /-- A variant with data. -/
  | tagged (variant : String) (payload : Datum)
  | value (v : Value)
  | node (n : Node)
  | path (p : Path)
  deriving Inhabited

namespace Datum

mutual

/-- The data that a datum is written as. -/
def toUntyped : Datum → Untyped
  | .unit => .null
  | .boolean b => .boolean b
  | .integer i => .integer i
  | .float x => .float x
  | .character c => .string (String.ofList [c])
  | .string s => .string s
  | .absent => .null
  | .present datum => toUntyped datum
  | .series items => .list (itemsToUntyped items)
  | .record fields => .map (entriesToUntyped fields)
  | .map entries => .map (entriesToUntyped entries)
  | .choice variant => .string variant
  | .tagged variant payload => .map [(variant, toUntyped payload)]
  | .value v => Untyped.ofValue v
  | .node n => Untyped.ofNode n
  | .path p => p.toUntyped

/-- The items of a series, one by one. -/
def itemsToUntyped : List Datum → List Untyped
  | [] => []
  | item :: rest => toUntyped item :: itemsToUntyped rest

/-- The fields or entries, one by one. -/
def entriesToUntyped : List (String × Datum) → List (String × Untyped)
  | [] => []
  | (key, datum) :: rest => (key, toUntyped datum) :: entriesToUntyped rest

end

/-- The datum as JSON. -/
def toJson (datum : Datum) : Json := datum.toUntyped.toJson

end Datum

end Placeholder
