import Placeholder.Untyped

/-!
# Paths

Where something is in a structure: the keys and positions that lead to it from the root.  A path is
shown with dots before keys and brackets around positions, as in `items[2].name`.
-/

namespace Placeholder

/-- One step of a path. -/
inductive Segment where
  | key (name : String)
  | index (position : Nat)
  deriving DecidableEq

/-- The steps from the root, outermost first. -/
abbrev Path := List Segment

namespace Segment

/-- The key or the position alone. -/
def text : Segment → String
  | .key name => name
  | .index position => toString position

/-- The segment as it is shown inside a path. -/
def shown : Segment → String
  | .key name => "." ++ name
  | .index position => "[" ++ toString position ++ "]"

def isKey (segment : Segment) (name : String) : Bool := segment = .key name

def isIndex (segment : Segment) (position : Nat) : Bool := segment = .index position

def toUntyped : Segment → Untyped
  | .key name => .string name
  | .index position => .integer position

/-- The segment that the data is: a text is a key, and a whole number that is not negative a
position. -/
def ofUntyped? : Untyped → Option Segment
  | .string name => some (.key name)
  | .integer i => if 0 ≤ i then some (.index i.toNat) else none
  | _ => none

end Segment

namespace Path

/-- The path one step further down. -/
def child (path : Path) (segment : Segment) : Path := path ++ [segment]

/-- The path as it is shown; a key in front has no dot. -/
def text : Path → String
  | [] => ""
  | .key name :: rest => name ++ String.join (rest.map Segment.shown)
  | path => String.join (path.map Segment.shown)

def toUntyped (path : Path) : Untyped := .list (path.map Segment.toUntyped)

/-- The path as JSON: an array of texts and whole numbers. -/
def toJson (path : Path) : Json := path.toUntyped.toJson

end Path

end Placeholder
