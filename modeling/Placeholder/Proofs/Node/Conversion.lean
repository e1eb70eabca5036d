import Placeholder.Node.Place
import Placeholder.Proofs.Binary64.Nearest

/-!
# Structures and JSON

JSON becomes a structure and a structure becomes JSON, in two walks of their own.  Each way round,
one walk after the other is told without the structure in the middle:

* JSON comes back with something else only in the places of its whole numbers (`toJson_ofJson`).
  `Json.integers` lists them, and `Json.mapIntegers` replaces them.
* A structure comes back with other scalars (`ofJson_toJson`), which are null where JSON has no such
  number (`Value.orNull`), and the same everywhere else.

At every place the structure has what the JSON at this place becomes (`follow?_ofJson`), and the
other way round (`follow?_toJson`).

Main statement: `conversion_exact`.
-/

namespace Placeholder

namespace Json

/-! ## Places and whole numbers in JSON -/

/-- The child that a segment leads to. -/
def child? : Json → Segment → Option Json
  | .object fields, .key name => Entries.get? fields name
  | .array items, .index position => items[position]?
  | _, _ => none

/-- The JSON that a path leads to. -/
def follow? (json : Json) : Path → Option Json
  | [] => some json
  | segment :: rest => (json.child? segment).bind fun child => child.follow? rest

mutual

/-- The whole numbers, in document order. -/
def integers : Json → List Int
  | .integer i => [i]
  | .array items => integersOfItems items
  | .object fields => integersOfFields fields
  | _ => []

/-- The whole numbers in the items of an array. -/
def integersOfItems : List Json → List Int
  | [] => []
  | item :: rest => integers item ++ integersOfItems rest

/-- The whole numbers in the fields of an object. -/
def integersOfFields : List (String × Json) → List Int
  | [] => []
  | (_, field) :: rest => integers field ++ integersOfFields rest

end

mutual

/-- The JSON with each whole number replaced. -/
def mapIntegers (f : Int → Json) : Json → Json
  | .integer i => f i
  | .array items => .array (mapIntegersOfItems f items)
  | .object fields => .object (mapIntegersOfFields f fields)
  | other => other

/-- The items of an array, one by one. -/
def mapIntegersOfItems (f : Int → Json) : List Json → List Json
  | [] => []
  | item :: rest => mapIntegers f item :: mapIntegersOfItems f rest

/-- The fields of an object, one by one. -/
def mapIntegersOfFields (f : Int → Json) : List (String × Json) → List (String × Json)
  | [] => []
  | (key, field) :: rest => (key, mapIntegers f field) :: mapIntegersOfFields f rest

end

theorem ofBinary64_finite (x : Binary64.Finite) : ofBinary64 x.val = .float x := dif_pos x.property

mutual

/-- What is put in the places of the whole numbers counts only for those that are there. -/
theorem mapIntegers_congr {f g : Int → Json} : ∀ {json : Json},
    (∀ i ∈ json.integers, f i = g i) → json.mapIntegers f = json.mapIntegers g
  | .integer i, h => h i (List.mem_singleton_self i)
  | .array _, h => congrArg Json.array (mapIntegersOfItems_congr h)
  | .object _, h => congrArg Json.object (mapIntegersOfFields_congr h)
  | .null, _ | .boolean _, _ | .float _, _ | .string _, _ => rfl

theorem mapIntegersOfItems_congr {f g : Int → Json} : ∀ {items : List Json},
    (∀ i ∈ integersOfItems items, f i = g i) →
      mapIntegersOfItems f items = mapIntegersOfItems g items
  | [], _ => rfl
  | item :: rest, h => by
    have hitem := fun i hi => h i (List.mem_append_left (integersOfItems rest) hi)
    have hrest := fun i hi => h i (List.mem_append_right item.integers hi)
    rw [mapIntegersOfItems, mapIntegersOfItems, mapIntegers_congr hitem,
      mapIntegersOfItems_congr hrest]

theorem mapIntegersOfFields_congr {f g : Int → Json} : ∀ {fields : List (String × Json)},
    (∀ i ∈ integersOfFields fields, f i = g i) →
      mapIntegersOfFields f fields = mapIntegersOfFields g fields
  | [], _ => rfl
  | (key, field) :: rest, h => by
    have hfield := fun i hi => h i (List.mem_append_left (integersOfFields rest) hi)
    have hrest := fun i hi => h i (List.mem_append_right field.integers hi)
    rw [mapIntegersOfFields, mapIntegersOfFields, mapIntegers_congr hfield,
      mapIntegersOfFields_congr hrest]

end

mutual

/-- Where each whole number is replaced by itself, nothing changes. -/
theorem mapIntegers_integer : ∀ json : Json, json.mapIntegers .integer = json
  | .array items => congrArg Json.array (mapIntegersOfItems_integer items)
  | .object fields => congrArg Json.object (mapIntegersOfFields_integer fields)
  | .null | .boolean _ | .integer _ | .float _ | .string _ => rfl

theorem mapIntegersOfItems_integer : ∀ items : List Json,
    mapIntegersOfItems .integer items = items
  | [] => rfl
  | item :: rest => by
    rw [mapIntegersOfItems, mapIntegers_integer item, mapIntegersOfItems_integer rest]

theorem mapIntegersOfFields_integer : ∀ fields : List (String × Json),
    mapIntegersOfFields .integer fields = fields
  | [] => rfl
  | (key, field) :: rest => by
    rw [mapIntegersOfFields, mapIntegers_integer field, mapIntegersOfFields_integer rest]

end

end Json

/-! ## Scalars -/

namespace Value

/-- The value, but null in the place of a double that is infinite or no number. -/
def orNull : Value → Value
  | .float x => if x.isFinite then .float x else .null
  | other => other

/-- A whole number that fits comes back from the integer that it becomes. -/
theorem toJson_ofInt_of_fits {i : Int} (hmin : Int64.minValue.toInt ≤ i)
    (hmax : i ≤ Int64.maxValue.toInt) : (ofInt i).toJson = .integer i := by
  have hfits : fitsInteger i = true := by
    rw [fitsInteger, decide_eq_true hmin, decide_eq_true hmax, Bool.and_self]
  rw [ofInt, if_pos hfits, toJson]
  exact congrArg Json.integer
    (Int64.toInt_ofInt_of_le hmin (Int.lt_of_le_of_lt hmax (by decide)))

theorem toJson_ofInt_of_large {i : Int} (hmax : Int64.maxValue.toInt < i) :
    (ofInt i).toJson = Json.ofBinary64 (Binary64.ofInt i) := by
  have hfits : ¬ fitsInteger i = true := by
    rw [fitsInteger, Bool.and_eq_true, decide_eq_true_eq, decide_eq_true_eq]
    omega
  rw [ofInt, if_neg hfits, toJson]

theorem ofInt_ne_null (i : Int) : ofInt i ≠ .null := by
  rw [ofInt]
  split <;> simp

theorem ofInt_toInt (i : Int64) : ofInt i.toInt = .integer i := by
  have hfits : fitsInteger i.toInt = true := by
    rw [fitsInteger, decide_eq_true i.minValue_le_toInt, decide_eq_true i.toInt_le, Bool.and_self]
  rw [ofInt, if_pos hfits, Int64.ofInt_toInt]

/-- Only arrays and objects are no values. -/
theorem ofJson?_eq_error_iff (json : Json) :
    (∃ error, ofJson? json = .error error) ↔
      (∃ items, json = .array items) ∨ ∃ fields, json = .object fields := by
  cases json <;> simp [ofJson?]

end Value

namespace Node

mutual

/-- The structure with other scalars. -/
def mapScalars (f : Value → Value) : Node → Node
  | .scalar value => .scalar (f value)
  | .map entries => .map (mapScalarsOfEntries f entries)
  | .list items => .list (mapScalarsOfItems f items)

/-- The entries of a map, one by one. -/
def mapScalarsOfEntries (f : Value → Value) : List (String × Node) → List (String × Node)
  | [] => []
  | (key, child) :: rest => (key, mapScalars f child) :: mapScalarsOfEntries f rest

/-- The items of a list, one by one. -/
def mapScalarsOfItems (f : Value → Value) : List Node → List Node
  | [] => []
  | item :: rest => mapScalars f item :: mapScalarsOfItems f rest

end

/-! ## There and back -/

/-- A scalar is what the JSON is as a value, and nothing else becomes a scalar. -/
theorem ofJson_eq_scalar_iff (json : Json) (value : Value) :
    ofJson json = .scalar value ↔ Value.ofJson? json = .ok value := by
  cases json with
  | array | object => simp [ofJson, Value.ofJson?]
  | null | boolean | integer | float | string =>
    exact ⟨fun h => congrArg Except.ok (scalar.inj h), fun h => congrArg scalar (Except.ok.inj h)⟩

mutual

/-- JSON comes back with each whole number as it is as a value. -/
theorem toJson_ofJson : ∀ json : Json,
    (ofJson json).toJson = json.mapIntegers fun i => (Value.ofInt i).toJson
  | .array items => congrArg Json.array (itemsToJson_itemsOfJson items)
  | .object fields => congrArg Json.object (entriesToJson_entriesOfJson fields)
  | .float x => Json.ofBinary64_finite x
  | .null | .boolean _ | .integer _ | .string _ => rfl

theorem itemsToJson_itemsOfJson : ∀ items : List Json,
    itemsToJson (itemsOfJson items) =
      Json.mapIntegersOfItems (fun i => (Value.ofInt i).toJson) items
  | [] => rfl
  | item :: rest => by
    rw [itemsOfJson, itemsToJson, Json.mapIntegersOfItems, toJson_ofJson item,
      itemsToJson_itemsOfJson rest]

theorem entriesToJson_entriesOfJson : ∀ fields : List (String × Json),
    entriesToJson (entriesOfJson fields) =
      Json.mapIntegersOfFields (fun i => (Value.ofInt i).toJson) fields
  | [] => rfl
  | (key, field) :: rest => by
    rw [entriesOfJson, entriesToJson, Json.mapIntegersOfFields, toJson_ofJson field,
      entriesToJson_entriesOfJson rest]

end

theorem ofJson_toJson_scalar (value : Value) : ofJson value.toJson = .scalar value.orNull := by
  cases value with
  | integer i => exact congrArg Node.scalar (Value.ofInt_toInt i)
  | float x =>
    rw [Value.toJson, Value.orNull]
    by_cases hfinite : x.isFinite = true
    · rw [if_pos hfinite, Json.ofBinary64_finite ⟨x, hfinite⟩]
      rfl
    · rw [if_neg hfinite, Json.ofBinary64, dif_neg hfinite]
      rfl
  | string | boolean | null => rfl

mutual

/-- A structure comes back with null in the place of each double that JSON does not have. -/
theorem ofJson_toJson : ∀ node : Node, ofJson node.toJson = node.mapScalars Value.orNull
  | .scalar value => ofJson_toJson_scalar value
  | .map entries => congrArg Node.map (entriesOfJson_entriesToJson entries)
  | .list items => congrArg Node.list (itemsOfJson_itemsToJson items)

theorem entriesOfJson_entriesToJson : ∀ entries : List (String × Node),
    entriesOfJson (entriesToJson entries) = mapScalarsOfEntries Value.orNull entries
  | [] => rfl
  | (key, child) :: rest => by
    rw [entriesToJson, entriesOfJson, mapScalarsOfEntries, ofJson_toJson child,
      entriesOfJson_entriesToJson rest]

theorem itemsOfJson_itemsToJson : ∀ items : List Node,
    itemsOfJson (itemsToJson items) = mapScalarsOfItems Value.orNull items
  | [] => rfl
  | item :: rest => by
    rw [itemsToJson, itemsOfJson, mapScalarsOfItems, ofJson_toJson item,
      itemsOfJson_itemsToJson rest]

end

/-! ## Places -/

theorem entriesOfJson_eq_map (fields : List (String × Json)) :
    entriesOfJson fields = fields.map fun (key, field) => (key, ofJson field) := by
  induction fields with
  | nil => rfl
  | cons field rest ih => rw [entriesOfJson, ih, List.map_cons]

theorem itemsOfJson_eq_map (items : List Json) : itemsOfJson items = items.map ofJson := by
  induction items with
  | nil => rfl
  | cons item rest ih => rw [itemsOfJson, ih, List.map_cons]

theorem entriesToJson_eq_map (entries : List (String × Node)) :
    entriesToJson entries = entries.map fun (key, child) => (key, toJson child) := by
  induction entries with
  | nil => rfl
  | cons entry rest ih => rw [entriesToJson, ih, List.map_cons]

theorem itemsToJson_eq_map (items : List Node) : itemsToJson items = items.map toJson := by
  induction items with
  | nil => rfl
  | cons item rest ih => rw [itemsToJson, ih, List.map_cons]

theorem child?_ofJson (json : Json) (segment : Segment) :
    (ofJson json).child? segment = (json.child? segment).map ofJson := by
  cases json with
  | object fields =>
    cases segment with
    | key name =>
      rw [ofJson, entriesOfJson_eq_map]
      exact Entries.get?_map ofJson fields name
    | index position => rfl
  | array items =>
    cases segment with
    | key name => rfl
    | index position =>
      rw [ofJson, itemsOfJson_eq_map]
      exact List.getElem?_map
  | null | boolean | integer | float | string => rfl

/-- At every place there is what the JSON at this place becomes. -/
theorem follow?_ofJson (json : Json) (path : Path) :
    (ofJson json).follow? path = (json.follow? path).map ofJson := by
  induction path generalizing json with
  | nil => rfl
  | cons segment path ih =>
    rw [follow?, Json.follow?, child?_ofJson]
    cases json.child? segment with
    | none => rfl
    | some child => exact ih child

theorem child?_toJson (node : Node) (segment : Segment) :
    node.toJson.child? segment = (node.child? segment).map toJson := by
  cases node with
  | map entries =>
    cases segment with
    | key name =>
      rw [toJson, entriesToJson_eq_map]
      exact Entries.get?_map toJson entries name
    | index position => rfl
  | list items =>
    cases segment with
    | key name => rfl
    | index position =>
      rw [toJson, itemsToJson_eq_map]
      exact List.getElem?_map
  | scalar value =>
    cases value with
    | float x =>
      rw [toJson, Value.toJson, Json.ofBinary64]
      split <;> rfl
    | string | integer | boolean | null => rfl

/-- At every place of the JSON there is what the structure at this place becomes. -/
theorem follow?_toJson (node : Node) (path : Path) :
    node.toJson.follow? path = (node.follow? path).map toJson := by
  induction path generalizing node with
  | nil => rfl
  | cons segment path ih =>
    rw [follow?, Json.follow?, child?_toJson]
    cases node.child? segment with
    | none => rfl
    | some child => exact ih child

/-- No number and no text is taken for null. -/
theorem ofJson_eq_null_iff (json : Json) : ofJson json = .scalar .null ↔ json = .null := by
  rw [ofJson_eq_scalar_iff]
  cases json <;> simp [Value.ofJson?, Value.ofInt_ne_null]

/-- JSON in which all whole numbers fit an integer comes back from its structure as it was, and with
larger ones, up to sixty-four bits, these come back as their nearest doubles and nothing else has
changed.  A structure comes back from its JSON with null in the place of each double that is
infinite or no number, and nothing else has changed.  At every place the structure has what the JSON
at this place becomes, and there is null if and only if the JSON there is null.  What becomes a
scalar is just what the JSON is as a value, and only an array or an object is none. -/
theorem conversion_exact (json : Json) (node : Node) :
    ((∀ i ∈ json.integers, Int64.minValue.toInt ≤ i ∧ i ≤ Int64.maxValue.toInt) →
      (ofJson json).toJson = json) ∧
    ((∀ i ∈ json.integers, Int64.minValue.toInt ≤ i ∧ i < UInt64.size) →
      (ofJson json).toJson = (json.mapIntegers fun i =>
        if i ≤ Int64.maxValue.toInt then .integer i else Json.ofBinary64 (Binary64.ofInt i)) ∧
      ∀ i ∈ json.integers, (Binary64.ofInt i).IsNearest i 1) ∧
    ofJson node.toJson = node.mapScalars Value.orNull ∧
    (∀ path, (ofJson json).follow? path = (json.follow? path).map ofJson ∧
      ((ofJson json).follow? path = some (.scalar .null) ↔ json.follow? path = some .null)) ∧
    (∀ value, ofJson json = .scalar value ↔ Value.ofJson? json = .ok value) ∧
    ((∃ error, Value.ofJson? json = .error error) ↔
      (∃ items, json = .array items) ∨ ∃ fields, json = .object fields) := by
  refine ⟨fun hfits => ?_, fun hrange => ⟨?_, fun i hi => ?_⟩, ofJson_toJson node,
    fun path => ⟨follow?_ofJson json path, ?_⟩, ofJson_eq_scalar_iff json,
    Value.ofJson?_eq_error_iff json⟩
  · rw [toJson_ofJson, Json.mapIntegers_congr fun i hi =>
      Value.toJson_ofInt_of_fits (hfits i hi).1 (hfits i hi).2]
    exact Json.mapIntegers_integer json
  · rw [toJson_ofJson]
    refine Json.mapIntegers_congr fun i hi => ?_
    by_cases hmax : i ≤ Int64.maxValue.toInt
    · rw [if_pos hmax, Value.toJson_ofInt_of_fits (hrange i hi).1 hmax]
    · rw [if_neg hmax, Value.toJson_ofInt_of_large (Int.not_le.1 hmax)]
  · obtain ⟨hmin, hmax⟩ := hrange i hi
    have hlow : Int64.minValue.toInt = -9223372036854775808 := rfl
    have hhigh : UInt64.size = Nat.pow 2 64 := rfl
    have hbits : Nat.pow 2 64 = 18446744073709551616 := rfl
    exact Binary64.isNearest_ofInt (k := 64) (by decide) (by omega)
  · rw [follow?_ofJson]
    cases json.follow? path with
    | none => simp
    | some leaf => simp only [Option.map_some, Option.some.injEq, ofJson_eq_null_iff]

/-- The largest integer and the negative zero; the largest whole number, a tie between two doubles
and a negative number; and doubles that JSON does not have. -/
theorem conversion_numbers :
    let small : Json := .object
      [("k", .array [.integer 9223372036854775807, .float ⟨.zero true, rfl⟩]), ("a", .null)]
    let large : Json := .array
      [.integer 18446744073709551615, .integer 9223372036854776832, .integer (-1)]
    let node : Node := .list [.scalar (.float .nan), .scalar (.float (.infinity true))]
    (ofJson small).toJson = small ∧
      (ofJson large).toJson = .array
        [.float ⟨⟨false, 0x43F0000000000000, by decide⟩, rfl⟩,
          .float ⟨⟨false, 0x43E0000000000000, by decide⟩, rfl⟩, .integer (-1)] ∧
      ofJson node.toJson = .list [.scalar .null, .scalar .null] := by
  intro small large node
  obtain ⟨hsmall, -⟩ := conversion_exact small node
  obtain ⟨-, hlarge, hnode, -⟩ := conversion_exact large node
  obtain ⟨hjson, -⟩ := hlarge (by decide)
  have hlargest : Binary64.ofInt 18446744073709551615 = ⟨false, 0x43F0000000000000, by decide⟩ := by
    decide +kernel
  have htie : Binary64.ofInt 9223372036854776832 = ⟨false, 0x43E0000000000000, by decide⟩ := by
    decide +kernel
  refine ⟨hsmall (by decide), hjson.trans ?_, hnode⟩
  simp only [large, Json.mapIntegers, Json.mapIntegersOfItems, hlargest, htie]
  rfl

end Node

end Placeholder
