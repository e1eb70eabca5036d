import Placeholder.Proofs.Node.Children
import Placeholder.Proofs.Node.Conversion
import Placeholder.Proofs.Node.Refill

/-!
# The keys at a place

The keys of the map that a path leads to, in order (`Node.keysAt?`, `Json.keysAt?`).  They stay what
they are when texts are replaced (`keysAt?_refill`), and on the way from JSON and to JSON
(`keysAt?_ofJson`, `keysAt?_toJson`).  In a structure without repeated keys no key comes twice among
them (`nodup_of_keysAt?`).

The walks from JSON and to JSON leave the entries of a map in their list.  Where no key comes twice,
this is the same as collecting them into a new map, one after the other
(`ofJson_object_of_distinct`, `toJson_map_of_distinct`).
-/

namespace Placeholder

namespace Json

/-- The keys of an object, in order. -/
def keys? : Json → Option (List String)
  | .object fields => some (Entries.keys fields)
  | _ => none

/-- The keys of the object that a path leads to, in order. -/
def keysAt? (json : Json) (path : Path) : Option (List String) := (json.follow? path).bind keys?

end Json

namespace Node

/-- The keys of a map, in order. -/
def keys? : Node → Option (List String)
  | .map entries => some (Entries.keys entries)
  | _ => none

/-- The keys of the map that a path leads to, in order. -/
def keysAt? (node : Node) (path : Path) : Option (List String) := (node.follow? path).bind keys?

theorem nodup_of_keysAt? {node : Node} {path : Path} {keys : List String} (hnode : node.Distinct)
    (h : node.keysAt? path = some keys) : keys.Nodup := by
  obtain ⟨inner, hinner, hkeys⟩ := Option.bind_eq_some_iff.1 h
  have hdistinct := distinct_of_follow? hnode hinner
  cases inner with
  | map entries =>
    obtain rfl := Option.some.inj hkeys
    exact hdistinct.1
  | scalar | list => cases hkeys

theorem keys?_refill (node : Node) (values : List Value) :
    (node.refill values).keys? = node.keys? := by
  cases node with
  | map entries => exact congrArg some (keys_refillEntries entries values)
  | list items => rfl
  | scalar value => cases value <;> rfl

theorem keysAt?_refill (node : Node) (values : List Value) (path : Path) :
    (node.refill values).keysAt? path = node.keysAt? path := by
  obtain ⟨part, hfollow⟩ := follow?_refill node values path
  rw [keysAt?, keysAt?, hfollow, Option.bind_map]
  exact congrArg _ (funext fun inner => keys?_refill inner part)

/-! ## JSON -/

theorem keys?_ofJson (json : Json) : (ofJson json).keys? = json.keys? := by
  cases json with
  | object fields => exact congrArg some (keys_entriesOfJson fields)
  | null | boolean | integer | float | string | array => rfl

theorem keysAt?_ofJson (json : Json) (path : Path) :
    (ofJson json).keysAt? path = json.keysAt? path := by
  rw [keysAt?, Json.keysAt?, follow?_ofJson, Option.bind_map]
  exact congrArg _ (funext keys?_ofJson)

theorem keys?_toJson (node : Node) : node.toJson.keys? = node.keys? := by
  cases node with
  | map entries => exact congrArg some (keys_entriesToJson entries)
  | list items => rfl
  | scalar value =>
    cases value with
    | float x =>
      rw [toJson, Value.toJson, Json.ofBinary64]
      split <;> rfl
    | string | integer | boolean | null => rfl

theorem keysAt?_toJson (node : Node) (path : Path) :
    node.toJson.keysAt? path = node.keysAt? path := by
  rw [keysAt?, Json.keysAt?, follow?_toJson, Option.bind_map]
  exact congrArg _ (funext keys?_toJson)

/-- From an object a map is built by collecting what becomes of its fields. -/
theorem ofJson_object_of_distinct {fields : List (String × Json)}
    (hfields : Entries.Distinct fields) :
    ofJson (.object fields) = ofEntries (fields.map fun (key, field) => (key, ofJson field)) := by
  rw [ofJson, entriesOfJson_eq_map]
  exact (ofEntries_of_distinct (Entries.distinct_map ofJson hfields)).symm

/-- From a map an object is built by collecting what becomes of its entries. -/
theorem toJson_map_of_distinct {entries : List (String × Node)}
    (hentries : Entries.Distinct entries) :
    (Node.map entries).toJson =
      .object (Entries.ofList (entries.map fun (key, child) => (key, child.toJson))) := by
  rw [toJson, entriesToJson_eq_map, Entries.ofList_eq_self (Entries.distinct_map toJson hentries)]

end Node

end Placeholder
