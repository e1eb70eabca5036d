import Placeholder.Datum

/-!
# Shapes of typed data

A shape says as what a structure is to be read.  Records, variants and the like are declared under
names, and a shape refers to them by name, so a declared type may contain itself.
-/

namespace Placeholder

/-- A type of integers by its sign and width. -/
inductive IntegerType where
  | signed (bits : Nat)
  | unsigned (bits : Nat)
  deriving DecidableEq

namespace IntegerType

def name : IntegerType → String
  | .signed bits => "i" ++ toString bits
  | .unsigned bits => "u" ++ toString bits

/-- Whether the integer is of the type. -/
def contains : IntegerType → Int → Bool
  | .signed bits, i => -(Nat.pow 2 (bits - 1) : Int) ≤ i && i < Nat.pow 2 (bits - 1)
  | .unsigned bits, i => 0 ≤ i && i < Nat.pow 2 bits

end IntegerType

/-- As what the keys of a map are to be read.  The type `ν` holds the names of declarations. -/
inductive KeyShape (ν : Type) where
  | string
  | integer (type : IntegerType)
  | declared (name : ν)

/-- As what a structure is to be read.  The type `ν` holds the names of declarations. -/
inductive Shape (ν : Type) where
  | string
  | boolean
  | character
  | unit
  | integer (type : IntegerType)
  | float
  /-- Null, or what the inner shape reads. -/
  | option (inner : Shape ν)
  /-- Another name for the inner shape. -/
  | renamed (inner : Shape ν)
  | list (inner : Shape ν)
  | pair (first second : Shape ν)
  | array (length : Nat) (inner : Shape ν)
  | map (key : KeyShape ν) (inner : Shape ν)
  | declared (name : ν)
  /-- Any scalar. -/
  | value
  /-- Any structure. -/
  | node
  /-- A list of keys and positions. -/
  | path
  /-- A reader that asks a map for a value before it asks for a key. -/
  | valueFirst
  /-- How many entries a list or map announces, before the first one and after each. -/
  | sizes

/-- A field of a record, with what stands in for it if it is left out. -/
structure Field (ν : Type) where
  name : String
  shape : Shape ν
  default? : Option Datum := none

/-- The data of a variant. -/
inductive Payload (ν : Type) where
  | none
  | single (shape : Shape ν)
  | series (shapes : List (Shape ν))
  | record (fields : List (Field ν))

/-- One of the alternatives of a declared choice. -/
structure Variant (ν : Type) where
  name : String
  payload : Payload ν

/-- A declared type. -/
inductive Declaration (ν : Type) where
  /-- Named fields.  A closed record refuses fields that it does not know. -/
  | record (name : String) (fields : List (Field ν)) (closed : Bool)
  /-- Fields without names. -/
  | series (name : String) (shapes : List (Shape ν))
  /-- No fields. -/
  | marker (name : String)
  /-- Alternatives. -/
  | choice (name : String) (variants : List (Variant ν))

/-- What each name declares. -/
abbrev Schema (ν : Type) := ν → Declaration ν

namespace Shape

variable {ν : Type}

/-- What null is read as by the shape itself, if it takes null for the lack of a datum. -/
def ofNull? : Shape ν → Option Datum
  | .option _ => some .absent
  | .renamed inner => inner.ofNull?
  | _ => none

/-- The datum of the whole shape, from the datum of the shape without the options around it. -/
def wrap : Shape ν → Datum → Datum
  | .option inner, datum => .present (inner.wrap datum)
  | .renamed inner, datum => inner.wrap datum
  | _, datum => datum

end Shape

/-! ## Demands -/

/-- What is asked of one node: a shape without the options and other names around it, and with its
declaration looked up.  The titles say what is expected where something else is found. -/
inductive Demand (ν : Type) where
  | string
  | boolean
  | character
  | unit (title : String)
  | integer (type : IntegerType)
  | float
  | list (inner : Shape ν)
  | series (title counted : String) (shapes : List (Shape ν))
  | record (title : String) (fields : List (Field ν)) (closed : Bool)
  | map (key : KeyShape ν) (inner : Shape ν)
  | choice (name : String) (variants : List (Variant ν))
  | value
  | node
  | path
  | valueFirst
  | sizes

/-- A title with the number of elements that belong to it. -/
def countedTitle (title : String) (count : Nat) : String :=
  title ++ " with " ++ toString count ++ if count = 1 then " element" else " elements"

namespace Demand

variable {ν : Type}

/-- The words for what is expected. -/
def title : Demand ν → String
  | .string => "a string"
  | .boolean => "a boolean"
  | .character => "a character"
  | .unit title => title
  | .integer type => type.name
  | .float => "f64"
  | .list _ => "a sequence"
  | .series title _ _ => title
  | .record title _ _ => title
  | .map _ _ => "a map"
  | .choice name _ => "enum " ++ name
  | .value => "a scalar"
  | .node => "a structure"
  | .path => "a sequence"
  | .valueFirst => "a map"
  | .sizes => "a container"

/-- A series that is given by a title, which gets the number of its elements where they are too
few. -/
def ofSeries (title : String) (shapes : List (Shape ν)) : Demand ν :=
  .series title (countedTitle title shapes.length) shapes

/-- What a declared type asks for. -/
def ofDeclaration : Declaration ν → Demand ν
  | .record name fields closed => .record ("struct " ++ name) fields closed
  | .series name shapes => ofSeries ("tuple struct " ++ name) shapes
  | .marker name => .unit ("unit struct " ++ name)
  | .choice name variants => .choice name variants

/-- What a shape asks for. -/
def ofShape (schema : Schema ν) : Shape ν → Demand ν
  | .string => .string
  | .boolean => .boolean
  | .character => .character
  | .unit => .unit "unit"
  | .integer type => .integer type
  | .float => .float
  | .option inner => ofShape schema inner
  | .renamed inner => ofShape schema inner
  | .list inner => .list inner
  | .pair first second => .series "a tuple of size 2" "a tuple of size 2" [first, second]
  | .array length inner =>
    let title := "an array of length " ++ toString length
    .series title title (List.replicate length inner)
  | .map key inner => .map key inner
  | .declared name => ofDeclaration (schema name)
  | .value => .value
  | .node => .node
  | .path => .path
  | .valueFirst => .valueFirst
  | .sizes => .sizes

end Demand

end Placeholder
