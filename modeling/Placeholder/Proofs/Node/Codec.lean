import Placeholder.Fault
import Placeholder.Proofs.Node.Conversion

/-!
# Reading JSON kind by kind

There are two ways from JSON to a value or a structure: a direct one, which looks at what the JSON
is (`Value.ofJson?`, `Node.ofJson`), and one that keeps the JSON as data and tries the kinds one
after the other (`Value.decode`, `Node.decode`).  There are two ways back as well.

Among the kinds of a scalar only two accept the same data: an integer and a double both accept a
whole number.  The integer is tried first and refuses what does not fit, and that is how the direct
way decides (`value?_integer`).  A list and a map are accepted by no kind of scalar, so they get to
their own kind.

Main statement: `codec_exact`.
-/

namespace Placeholder

namespace Untyped

/-! ## The kinds in order -/

/-- The kinds of a scalar, in the order in which they are tried. -/
def scalarKinds : List (Untyped → Option Value) :=
  [fun data => data.string?.map .string, fun data => data.integer?.map .integer,
    fun data => data.float?.map .float, fun data => data.boolean?.map .boolean,
    fun data => data.null?.map fun _ => .null]

/-- A map all whose entries are structures. -/
def map? : Untyped → Option (List (String × Node))
  | .map entries => entries? entries
  | _ => none

/-- A list all whose items are structures. -/
def list? : Untyped → Option (List Node)
  | .list items => items? items
  | _ => none

/-- The kinds of a structure, in the order in which they are tried. -/
def nodeKinds : List (Untyped → Option Node) :=
  [fun data => data.value?.map .scalar, fun data => data.map?.map .map,
    fun data => data.list?.map .list]

theorem value?_eq_findSome? (data : Untyped) : data.value? = scalarKinds.findSome? (· data) := by
  cases data with
  | integer i =>
    simp only [value?, scalarKinds, string?, integer?, List.findSome?]
    split <;> rfl
  | null | boolean | float | string | list | map => rfl

theorem node?_eq_findSome? (data : Untyped) : data.node? = nodeKinds.findSome? (· data) := by
  have hscalar : data.map? = none → data.list? = none → data.node? = data.value?.map .scalar →
      data.node? = nodeKinds.findSome? (· data) := by
    intro hmap hlist hnode
    simp only [nodeKinds, List.findSome?, hmap, hlist, hnode]
    cases data.value? <;> rfl
  cases data with
  | list items =>
    simp only [nodeKinds, List.findSome?, node?, map?, list?]
    cases items? items <;> rfl
  | map entries =>
    simp only [nodeKinds, List.findSome?, node?, map?, list?]
    cases entries? entries <;> rfl
  | null | boolean | integer | float | string => exact hscalar rfl rfl rfl

/-! ## Scalars -/

/-- A whole number is an integer if it fits, and else its nearest double. -/
theorem value?_integer (i : Int) : (Untyped.integer i).value? = some (Value.ofInt i) := by
  simp only [value?, string?, integer?, Value.ofInt]
  split <;> rfl

theorem value?_ofValue (value : Value) : (ofValue value).value? = some value := by
  cases value with
  | integer i => rw [ofValue, value?_integer, Value.ofInt_toInt]
  | string | float | boolean | null => rfl

/-- Read kind by kind, JSON is the same value as it is directly, and none where it is none. -/
theorem value?_ofJson (json : Json) : (ofJson json).value? = (Value.ofJson? json).toOption := by
  cases json with
  | integer i => exact value?_integer i
  | null | boolean | float | string | array | object => rfl

theorem toJson_ofValue (value : Value) : (ofValue value).toJson = value.toJson := by
  cases value <;> rfl

/-! ## Structures -/

mutual

/-- Read kind by kind, JSON is the same structure as it is directly. -/
theorem node?_ofJson : ∀ json : Json, (ofJson json).node? = some (Node.ofJson json)
  | .array items => by
    rw [ofJson, node?, items?_itemsOfJson items]
    rfl
  | .object fields => by
    rw [ofJson, node?, entries?_entriesOfJson fields]
    rfl
  | .integer i => congrArg (Option.map Node.scalar) (value?_integer i)
  | .null | .boolean _ | .float _ | .string _ => rfl

theorem items?_itemsOfJson : ∀ items : List Json,
    items? (itemsOfJson items) = some (Node.itemsOfJson items)
  | [] => rfl
  | item :: rest => by
    rw [itemsOfJson, items?, node?_ofJson item, items?_itemsOfJson rest]
    rfl

theorem entries?_entriesOfJson : ∀ fields : List (String × Json),
    entries? (entriesOfJson fields) = some (Node.entriesOfJson fields)
  | [] => rfl
  | (key, field) :: rest => by
    rw [entriesOfJson, entries?, node?_ofJson field, entries?_entriesOfJson rest]
    rfl

end

mutual

/-- Written as data, a structure is the same JSON as it is directly. -/
theorem toJson_ofNode : ∀ node : Node, (ofNode node).toJson = node.toJson
  | .scalar value => toJson_ofValue value
  | .map entries => congrArg Json.object (entriesToJson_entriesOfNode entries)
  | .list items => congrArg Json.array (itemsToJson_itemsOfNode items)

theorem entriesToJson_entriesOfNode : ∀ entries : List (String × Node),
    entriesToJson (entriesOfNode entries) = Node.entriesToJson entries
  | [] => rfl
  | (key, child) :: rest => by
    rw [entriesOfNode, entriesToJson, Node.entriesToJson, toJson_ofNode child,
      entriesToJson_entriesOfNode rest]

theorem itemsToJson_itemsOfNode : ∀ items : List Node,
    itemsToJson (itemsOfNode items) = Node.itemsToJson items
  | [] => rfl
  | item :: rest => by
    rw [itemsOfNode, itemsToJson, Node.itemsToJson, toJson_ofNode item,
      itemsToJson_itemsOfNode rest]

end

end Untyped

theorem Node.decode_eq (json : Json) : Node.decode json = .ok (Node.ofJson json) := by
  rw [decode, Untyped.node?_ofJson]

theorem Value.decode_eq (json : Json) :
    Value.decode json = (Value.ofJson? json).mapError fun _ => .noAlternative "Value" := by
  rw [decode, Untyped.value?_ofJson]
  cases Value.ofJson? json <;> rfl

/-- The kinds of a value and of a structure are tried in order, and the first that accepts the data
wins.  Read in this way, every JSON is a structure, and the one that it is directly.  It is a value
just when it is one directly, and the same one; only arrays and objects are none.  A structure and a
value are written as the JSON that they are directly, also with doubles that JSON does not have. -/
theorem Node.codec_exact (json : Json) (node : Node) (value : Value) :
    (∀ data : Untyped, data.value? = Untyped.scalarKinds.findSome? (· data) ∧
      data.node? = Untyped.nodeKinds.findSome? (· data)) ∧
    Node.decode json = .ok (Node.ofJson json) ∧
    (∀ v, Value.decode json = .ok v ↔ Value.ofJson? json = .ok v) ∧
    ((∃ fault, Value.decode json = .error fault) ↔ ∃ error, Value.ofJson? json = .error error) ∧
    ((∃ fault, Value.decode json = .error fault) ↔
      (∃ items, json = .array items) ∨ ∃ fields, json = .object fields) ∧
    (Untyped.ofNode node).toJson = node.toJson ∧
    (Untyped.ofValue value).toJson = value.toJson := by
  have hfails : (∃ fault, Value.decode json = .error fault) ↔
      ∃ error, Value.ofJson? json = .error error := by
    rw [Value.decode_eq]
    cases Value.ofJson? json with
    | error error => exact iff_of_true ⟨_, rfl⟩ ⟨error, rfl⟩
    | ok v =>
      constructor <;>
      · rintro ⟨_, h⟩
        cases h
  refine ⟨fun data => ⟨data.value?_eq_findSome?, data.node?_eq_findSome?⟩, decode_eq json,
    fun v => ?_, hfails, hfails.trans (Value.ofJson?_eq_error_iff json),
    Untyped.toJson_ofNode node, Untyped.toJson_ofValue value⟩
  rw [Value.decode_eq]
  cases Value.ofJson? json with
  | error error =>
    constructor <;>
    · intro h
      cases h
  | ok w =>
    constructor <;>
    · intro h
      exact congrArg Except.ok (Except.ok.inj h)

end Placeholder
