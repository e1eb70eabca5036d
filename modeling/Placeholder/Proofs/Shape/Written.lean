import Placeholder.Proofs.Node.Children
import Placeholder.Proofs.Node.Codec
import Placeholder.Proofs.Shape.Walks

/-!
# Data written as structures

A datum is written as JSON, and the JSON is a structure again: `Datum.written`.  There is one
equation for each kind of datum.

JSON has no infinite doubles and none that is no number, so a scalar or a structure inside of a
datum is written as it is only if all its doubles are finite (`Node.allFinite`).  A path that was
read from a list is written as this list (`Datum.written_of_ofUntyped`).
-/

namespace Placeholder

/-! ## Finite doubles -/

/-- Whether the value is not a double that JSON does not have. -/
def Value.isFinite : Value → Bool
  | .float x => x.isFinite
  | _ => true

theorem Value.orNull_of_isFinite {v : Value} (h : v.isFinite = true) : v.orNull = v := by
  cases v with
  | float x => exact if_pos h
  | string | integer | boolean | null => rfl

namespace Node

mutual

/-- Whether all doubles in the structure are finite. -/
def allFinite : Node → Bool
  | .scalar v => v.isFinite
  | .map entries => entriesAllFinite entries
  | .list items => itemsAllFinite items

/-- The entries of a map, one by one. -/
def entriesAllFinite : List (String × Node) → Bool
  | [] => true
  | (_, child) :: rest => allFinite child && entriesAllFinite rest

/-- The items of a list, one by one. -/
def itemsAllFinite : List Node → Bool
  | [] => true
  | item :: rest => allFinite item && itemsAllFinite rest

end

theorem allFinite_of_mem_entries {entries : List (String × Node)} {key : String} {child : Node}
    (hentries : entriesAllFinite entries = true) (h : (key, child) ∈ entries) :
    child.allFinite = true := by
  induction entries with
  | nil => cases h
  | cons entry rest ih =>
    obtain ⟨hfirst, hrest⟩ := Bool.and_eq_true_iff.1 hentries
    rcases List.mem_cons.1 h with rfl | h
    · exact hfirst
    · exact ih hrest h

theorem allFinite_of_mem_items {items : List Node} {child : Node}
    (hitems : itemsAllFinite items = true) (h : child ∈ items) : child.allFinite = true := by
  induction items with
  | nil => cases h
  | cons item rest ih =>
    obtain ⟨hfirst, hrest⟩ := Bool.and_eq_true_iff.1 hitems
    rcases List.mem_cons.1 h with rfl | h
    · exact hfirst
    · exact ih hrest h

mutual

theorem mapScalars_orNull : ∀ {node : Node}, node.allFinite = true →
    node.mapScalars Value.orNull = node
  | .scalar _, h => congrArg Node.scalar (Value.orNull_of_isFinite h)
  | .map _, h => congrArg Node.map (mapScalarsOfEntries_orNull h)
  | .list _, h => congrArg Node.list (mapScalarsOfItems_orNull h)

theorem mapScalarsOfEntries_orNull : ∀ {entries : List (String × Node)},
    entriesAllFinite entries = true → mapScalarsOfEntries Value.orNull entries = entries
  | [], _ => rfl
  | (key, child) :: rest, h => by
    obtain ⟨hchild, hrest⟩ := Bool.and_eq_true_iff.1 h
    rw [mapScalarsOfEntries, mapScalars_orNull hchild, mapScalarsOfEntries_orNull hrest]

theorem mapScalarsOfItems_orNull : ∀ {items : List Node},
    itemsAllFinite items = true → mapScalarsOfItems Value.orNull items = items
  | [], _ => rfl
  | item :: rest, h => by
    obtain ⟨hitem, hrest⟩ := Bool.and_eq_true_iff.1 h
    rw [mapScalarsOfItems, mapScalars_orNull hitem, mapScalarsOfItems_orNull hrest]

end

end Node

/-! ## Data -/

namespace Datum

/-- The structure that the JSON of the datum is. -/
def written (datum : Datum) : Node := Node.ofJson datum.toJson

/-- The data of the entries or fields, written under their keys. -/
def writtenEntries (entries : List (String × Datum)) : List (String × Node) :=
  entries.map fun (key, datum) => (key, datum.written)

theorem written_series (items : List Datum) :
    (Datum.series items).written = .list (items.map written) := by
  have hitems : ∀ items : List Datum,
      Node.itemsOfJson (Untyped.itemsToJson (itemsToUntyped items)) = items.map written := by
    intro items
    induction items with
    | nil => rfl
    | cons item rest ih => exact congrArg (item.written :: ·) ih
  exact congrArg Node.list (hitems items)

theorem entriesOfJson_written (entries : List (String × Datum)) :
    Node.entriesOfJson (Untyped.entriesToJson (entriesToUntyped entries)) =
      writtenEntries entries := by
  induction entries with
  | nil => rfl
  | cons entry rest ih => exact congrArg ((entry.1, entry.2.written) :: ·) ih

theorem written_map (entries : List (String × Datum)) :
    (Datum.map entries).written = .map (writtenEntries entries) :=
  congrArg Node.map (entriesOfJson_written entries)

/-- A record is written with the names of all its fields, in order. -/
theorem written_record (names : List String) (data : List Datum) :
    (Datum.record (names.zip data)).written = .map (names.zip (data.map written)) := by
  have hentries : writtenEntries (names.zip data) = names.zip (data.map written) := by
    rw [List.zip_map_right]
    rfl
  exact congrArg Node.map ((entriesOfJson_written _).trans hentries)

theorem written_tagged (tag : String) (payload : Datum) :
    (Datum.tagged tag payload).written = .map [(tag, payload.written)] := rfl

/-- Options are not seen in what is written, as long as they are not absent. -/
theorem written_wrap {ν : Type} (shape : Shape ν) (datum : Datum) :
    (shape.wrap datum).written = datum.written := by
  induction shape with
  | option inner ih => exact ih
  | renamed inner ih => exact ih
  | _ => rfl

theorem written_integer (i : Int64) :
    (Datum.integer i.toInt).written = .scalar (.integer i) :=
  congrArg Node.scalar (Value.ofInt_toInt i)

theorem written_value (v : Value) : (Datum.value v).written = .scalar v.orNull := by
  have hjson : (Datum.value v).toJson = v.toJson := Untyped.toJson_ofValue v
  rw [written, hjson, Node.ofJson_toJson_scalar]

theorem written_float {x : Binary64} (h : x.isFinite = true) :
    (Datum.float x).written = .scalar (.float x) :=
  (written_value (.float x)).trans (congrArg Node.scalar (Value.orNull_of_isFinite h))

theorem written_node {node : Node} (h : node.allFinite = true) :
    (Datum.node node).written = node := by
  have hjson : (Datum.node node).toJson = node.toJson := Untyped.toJson_ofNode node
  rw [written, hjson, Node.ofJson_toJson, Node.mapScalars_orNull h]

/-! ## Paths -/

theorem ofJson_of_ofUntyped? {item : Node} {segment : Segment}
    (h : Segment.ofUntyped? (Untyped.ofNode item) = some segment) :
    Node.ofJson segment.toUntyped.toJson = item := by
  cases item with
  | map entries => cases h
  | list items => cases h
  | scalar v =>
    cases v with
    | string name =>
      obtain rfl := Option.some.inj h
      rfl
    | integer i =>
      obtain ⟨hnonneg, hsegment⟩ := Option.ite_none_right_eq_some.1 h
      obtain rfl := Option.some.inj hsegment
      show Node.scalar (Value.ofInt (i.toInt.toNat : Int)) = _
      rw [Int.toNat_of_nonneg hnonneg, Value.ofInt_toInt]
    | float | boolean | null => cases h

theorem written_of_ofUntyped {items : List Node} {path : Path}
    (h : Path.ofUntyped (Untyped.ofNode (.list items)) = .ok path) :
    (Datum.path path).written = .list items := by
  rw [Untyped.ofNode, Path.ofUntyped] at h
  refine congrArg Node.list ?_
  show Node.itemsOfJson (Untyped.itemsToJson (path.map Segment.toUntyped)) = items
  induction items generalizing path with
  | nil =>
    obtain rfl : [] = path := Except.ok.inj h
    rfl
  | cons item rest ih =>
    rw [Untyped.itemsOfNode, List.mapM_cons] at h
    obtain ⟨segment, hsegment, h⟩ := bind_eq_ok_iff.1 h
    obtain ⟨others, hothers, h⟩ := bind_eq_ok_iff.1 h
    obtain rfl : segment :: others = path := Except.ok.inj h
    split at hsegment
    · next found hfound =>
      obtain rfl := Except.ok.inj hsegment
      rw [List.map_cons, Untyped.itemsToJson, Node.itemsOfJson, ofJson_of_ofUntyped? hfound,
        ih hothers]
    · cases hsegment

end Datum

end Placeholder
