import Placeholder.Node.Access
import Placeholder.Shape.Basic

/-!
# Reading a structure as a type

Reading follows the structure: a node is read as what is asked of it, and its children as what the
node's type asks of them.  A failure keeps the path of the innermost node that reported it; the
root has the empty path, and so has a failure that no node has reported yet.

Fixed series take as many items of a list as they need and leave the others, and a record may be
given as the list of its fields in order.

A node that may become any scalar or any structure is first taken apart into data, and the kinds are
then tried on the data.  If none accepts it, no node reports this.
-/

namespace Placeholder

/-- A failure to read a structure: the cause, and where it was reported. -/
structure ExtractionError where
  fault : Fault
  path : Path := []
  deriving DecidableEq

namespace ExtractionError

/-- The failure as a node reports it: it gets the path of the node if it has none yet. -/
def reportedAt (error : ExtractionError) (path : Path) : ExtractionError :=
  if error.path = [] then { error with path } else error

/-- The words for the cause alone. -/
def cause (error : ExtractionError) : String := error.fault.message .structure

/-- The words for the failure, with its path if it has one. -/
def message (error : ExtractionError) : String :=
  if error.path = [] then error.cause else error.cause ++ " at " ++ error.path.text

end ExtractionError

variable {ν : Type}

/-- A failure that no node has reported yet. -/
def fault (cause : Fault) : Except ExtractionError Datum := .error { fault := cause }

/-! ## Scalars -/

/-- The words for a node that cannot name a variant. -/
def Node.kindName : Node → String
  | .scalar v => v.typeName
  | .map entries => "map with " ++ toString entries.length ++ " keys"
  | .list _ => "list"

/-- The variant under a name, among those of a choice. -/
def findVariant (variants : List (Variant ν)) (name : String) : Except Fault (Variant ν) :=
  match variants.find? (·.name = name) with
  | some variant => .ok variant
  | none => .error (.unknownVariant name (variants.map (·.name)))

/-- A variant given by its name alone, which must be one without data. -/
def bareVariant (variant : Variant ν) : Except Fault Datum :=
  match variant.payload with
  | .none => .ok (.choice variant.name)
  | .single _ => .error (.invalidType .unitVariant "newtype variant")
  | .series _ => .error (.invalidType .unitVariant "tuple variant")
  | .record _ => .error (.invalidType .unitVariant "struct variant")

/-- A scalar read as what is asked for. -/
def readScalar (demand : Demand ν) (v : Value) : Except Fault Datum :=
  match demand, v with
  | .string, .string s => .ok (.string s)
  | .boolean, .boolean b => .ok (.boolean b)
  | .character, .string s =>
    match s.toList with
    | [c] => .ok (.character c)
    | _ => .error (.invalidValue (.string s) demand.title)
  | .unit _, .null => .ok .unit
  | .integer type, .integer i =>
    if type.contains i.toInt then .ok (.integer i.toInt)
    else .error (.invalidValue (.integer i.toInt) demand.title)
  | .float, .float x => .ok (.float x)
  | .float, .integer i => .ok (.float (Binary64.ofInt i.toInt))
  | .choice _ variants, .string s => findVariant variants s >>= bareVariant
  | .choice _ _, v => .error (.noVariant v.typeName)
  | demand, v => .error (.invalidType (.ofValue v) demand.title)

/-! ## Keys, and what is left out -/

/-- The key of a map, if it is of the kind of keys that the map has. -/
def readKey (schema : Schema ν) (shape : KeyShape ν) (key : String) : Except Fault String :=
  match shape with
  | .string => .ok key
  | .integer type => .error (.invalidType (.string key) type.name)
  | .declared name =>
    match Demand.ofDeclaration (schema name) with
    | .choice _ variants => do
      let _ ← findVariant variants key >>= bareVariant
      return key
    | demand => .error (.invalidType (.string key) demand.title)

/-- Whether one key comes before another in the order of a map: texts by their characters, variants
in the order of their declaration. -/
def keyBefore (schema : Schema ν) (shape : KeyShape ν) (first second : String) : Bool :=
  match shape with
  | .declared name =>
    match schema name with
    | .choice _ variants =>
      let names := variants.map (·.name)
      names.idxOf first < names.idxOf second
    | _ => first < second
  | _ => first < second

/-- An entry put before the first one that it comes before. -/
def insertSorted (before : String → String → Bool) (entry : String × Datum) :
    List (String × Datum) → List (String × Datum)
  | [] => [entry]
  | other :: rest =>
    if before entry.1 other.1 then entry :: other :: rest
    else other :: insertSorted before entry rest

/-- The entries in the order of their keys. -/
def sortEntries (before : String → String → Bool) (entries : List (String × Datum)) :
    List (String × Datum) :=
  entries.foldr (insertSorted before) []

/-- What stands in for the fields that a list is too short for, from the given position on. -/
def defaults (counted : String) (position : Nat) : List (Field ν) → Except Fault (List Datum)
  | [] => .ok []
  | field :: rest =>
    match field.default? with
    | some datum => (defaults counted (position + 1) rest).map (datum :: ·)
    | none => .error (.invalidLength position counted)

/-- A field of a record from what was found under its name.  Without an entry it is its default, or
absent if its shape is an option. -/
def fieldDatum (field : Field ν) (found : List (String × Datum)) : Except Fault Datum :=
  match found.lookup field.name, field.default?, field.shape with
  | some datum, _, _ => .ok datum
  | none, some datum, _ => .ok datum
  | none, none, .option _ => .ok .absent
  | none, none, _ => .error (.missingField field.name)

/-- The fields of a record in the order of their declaration. -/
def assemble (fields : List (Field ν)) (found : List (String × Datum)) : Except Fault Datum :=
  (fields.mapM fun field => (fieldDatum field found).map (field.name, ·)).map .record

/-- The numbers from `n` down to zero. -/
def countdown (n : Nat) : Datum :=
  .series ((List.range (n + 1)).reverse.map fun i : Nat => .integer i)

/-- The parts of a series as fields without defaults. -/
def seriesFields (shapes : List (Shape ν)) : List (Field ν) :=
  shapes.map fun shape => { name := "", shape }

/-! ## Nodes -/

/-- A child that is read with the given result, unless it is null and the shape takes null for the
lack of a datum. -/
def Shape.finish (shape : Shape ν) (child : Node) (result : Except ExtractionError Datum) :
    Except ExtractionError Datum :=
  match child, shape.ofNull? with
  | .scalar .null, some datum => .ok datum
  | _, _ => result.map shape.wrap

/-- A shape that does not take null for the lack of a datum is read in the same way from null as
from anything else. -/
theorem Shape.finish_of_ofNull?_eq_none {shape : Shape ν} (h : shape.ofNull? = none) (child : Node)
    (result : Except ExtractionError Datum) :
    shape.finish child result = result.map shape.wrap := by
  unfold finish
  split
  · next hsome =>
    rw [h] at hsome
    cases hsome
  · rfl

/-- What is not null is read as the shape without the options around it. -/
theorem Shape.finish_of_ne_null (shape : Shape ν) {child : Node} (h : child ≠ .scalar .null)
    (result : Except ExtractionError Datum) :
    shape.finish child result = result.map shape.wrap := by
  unfold finish
  split
  · exact absurd rfl h
  · rfl

/-- A result as the node at the path reports it. -/
def reported (path : Path) {α : Type} (result : Except ExtractionError α) :
    Except ExtractionError α :=
  result.mapError (·.reportedAt path)

/-- A result whose failure no node has reported yet. -/
def unreported {α : Type} (result : Except Fault α) : Except ExtractionError α :=
  result.mapError fun cause => { fault := cause }

mutual

/-- A node at a path, taken apart into data. -/
def bufferNode (path : Path) : Node → Except ExtractionError Untyped
  | .scalar v => reported path (.ok (.ofValue v))
  | .map entries => reported path ((bufferEntries { entries, path }).map .map)
  | .list items => reported path ((bufferItems { items, path }).map .list)
termination_by node => sizeOf node

/-- The items that a list hands out, one by one. -/
def bufferItems (access : ItemAccess) : Except ExtractionError (List Untyped) :=
  match hnext : access.next? with
  | none => .ok []
  | some (child, access') =>
    have _ := (ItemAccess.sizeOf_lt_of_next? hnext).1
    have _ := (ItemAccess.sizeOf_lt_of_next? hnext).2
    do
      let item ← bufferNode child.path child.node
      let rest ← bufferItems access'
      return item :: rest
termination_by sizeOf access.items

/-- The entries that a map hands out, one by one. -/
def bufferEntries (access : EntryAccess) : Except ExtractionError (List (String × Untyped)) :=
  match hkey : access.nextKey? with
  | none => .ok []
  | some (key, held) =>
    match hnode : held.nextNode with
    | .error cause => .error { fault := cause }
    | .ok (child, access') =>
      have _ := (EntryAccess.sizeOf_lt_of_next hkey hnode).1
      have _ := (EntryAccess.sizeOf_lt_of_next hkey hnode).2
      do
        let datum ← bufferNode child.path child.node
        let rest ← bufferEntries access'
        return (key, datum) :: rest
termination_by sizeOf access.entries

end

/-- A node at a path, read as any scalar. -/
def readAnyScalar (path : Path) (node : Node) : Except ExtractionError Datum := do
  match (← bufferNode path node).value? with
  | some v => return .value v
  | none => fault (.noAlternative "Value")

/-- A node at a path, read as any structure. -/
def readAnyNode (path : Path) (node : Node) : Except ExtractionError Datum := do
  match (← bufferNode path node).node? with
  | some node => return .node node
  | none => fault (.noAlternative "Node")

mutual

/-- A node at a path, read as what is asked for. -/
def readNode (schema : Schema ν) (demand : Demand ν) (path : Path) :
    Node → Except ExtractionError Datum
  | .scalar v =>
    match demand with
    | .value => readAnyScalar path (.scalar v)
    | .node => readAnyNode path (.scalar v)
    | demand => reported path (unreported (readScalar demand v))
  | .list items =>
    match demand with
    | .value => readAnyScalar path (.list items)
    | .node => readAnyNode path (.list items)
    | demand =>
      reported path <|
        match demand with
        | .list inner => (readAll schema inner path 0 items).map .series
        | .series _ counted shapes =>
          (readSeries schema counted (seriesFields shapes) path 0 items).map .series
        | .record title fields _ =>
          (readSeries schema (countedTitle title fields.length) fields path 0 items).map fun data =>
            .record ((fields.map (·.name)).zip data)
        | .path => (unreported (Path.ofUntyped (Untyped.ofNode (.list items)))).map .path
        | .sizes => .ok (countdown items.length)
        | .choice _ _ => fault (.noVariant (Node.list items).kindName)
        | demand => fault (.invalidType .sequence demand.title)
  | .map entries =>
    match demand with
    | .value => readAnyScalar path (.map entries)
    | .node => readAnyNode path (.map entries)
    | demand =>
      reported path <|
        match demand with
        | .map key inner =>
          (readEntries schema key inner path entries).map fun data =>
            .map (sortEntries (keyBefore schema key) data)
        | .record _ fields closed => do
          let found ← readFields schema fields closed path entries
          unreported (assemble fields found)
        | .choice name variants =>
          match entries with
          | [(tag, payload)] =>
            unreported (findVariant variants tag) >>= fun variant =>
              let inside := path.child (.key tag)
              match variant.payload with
              | .none =>
                match payload with
                | .scalar .null => .ok (.choice tag)
                | _ => fault (.unitVariantData tag payload.kindName)
              | .single shape =>
                (shape.finish payload
                  (readNode schema (Demand.ofShape schema shape) inside payload)).map (.tagged tag)
              | .series shapes =>
                (readNode schema (Demand.ofSeries ("tuple variant " ++ name ++ "::" ++ tag) shapes)
                  inside payload).map (.tagged tag)
              | .record fields =>
                (readNode schema (.record ("struct variant " ++ name ++ "::" ++ tag) fields false)
                  inside payload).map (.tagged tag)
          | _ => fault (.noVariant (Node.map entries).kindName)
        | .valueFirst => fault .valueBeforeKey
        | .sizes => .ok (countdown entries.length)
        | demand => fault (.invalidType .map demand.title)

/-- The items of a list at a path from a position on, all of one shape. -/
def readAll (schema : Schema ν) (inner : Shape ν) (path : Path) (position : Nat) :
    List Node → Except ExtractionError (List Datum)
  | [] => .ok []
  | item :: rest => do
    let inside := path.child (.index position)
    let datum ←
      inner.finish item (readNode schema (Demand.ofShape schema inner) inside item)
    let data ← readAll schema inner path (position + 1) rest
    return datum :: data

/-- The items of a list at a path from a position on, one for each field.  Items that are left over
are ignored. -/
def readSeries (schema : Schema ν) (counted : String) (fields : List (Field ν)) (path : Path)
    (position : Nat) : List Node → Except ExtractionError (List Datum)
  | [] => unreported (defaults counted position fields)
  | item :: rest =>
    match fields with
    | [] => .ok []
    | field :: fields => do
      let inside := path.child (.index position)
      let datum ←
        field.shape.finish item (readNode schema (Demand.ofShape schema field.shape) inside item)
      let data ← readSeries schema counted fields path (position + 1) rest
      return datum :: data

/-- The entries of a map at a path, read as fields. -/
def readFields (schema : Schema ν) (fields : List (Field ν)) (closed : Bool) (path : Path) :
    List (String × Node) → Except ExtractionError (List (String × Datum))
  | [] => .ok []
  | (key, child) :: rest =>
    match fields.find? (·.name = key) with
    | some field => do
      let inside := path.child (.key key)
      let datum ←
        field.shape.finish child (readNode schema (Demand.ofShape schema field.shape) inside child)
      let data ← readFields schema fields closed path rest
      return (key, datum) :: data
    | none =>
      if closed then .error { fault := .unknownField key (fields.map (·.name)) }
      else readFields schema fields closed path rest

/-- The entries of a map at a path, all with keys of one kind and values of one shape. -/
def readEntries (schema : Schema ν) (keyShape : KeyShape ν) (inner : Shape ν) (path : Path) :
    List (String × Node) → Except ExtractionError (List (String × Datum))
  | [] => .ok []
  | (key, child) :: rest => do
    let key ← unreported (readKey schema keyShape key)
    let inside := path.child (.key key)
    let datum ←
      inner.finish child (readNode schema (Demand.ofShape schema inner) inside child)
    let data ← readEntries schema keyShape inner path rest
    return (key, datum) :: data

end

/-- The structure at a path, read as the shape. -/
def Node.extractAt (schema : Schema ν) (shape : Shape ν) (path : Path) (node : Node) :
    Except ExtractionError Datum :=
  shape.finish node (readNode schema (Demand.ofShape schema shape) path node)

/-- The structure read as the shape. -/
def Node.extract (schema : Schema ν) (shape : Shape ν) (node : Node) :
    Except ExtractionError Datum :=
  node.extractAt schema shape []

end Placeholder
