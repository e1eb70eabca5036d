import Placeholder.Node

/-!
# Structures without repeated keys

A structure is distinct if none of its maps, at any depth, has a key twice.  What is built by
inserting is distinct, and so is what comes from JSON with distinct keys.
-/

namespace Placeholder

namespace Json

mutual

/-- No object, at any depth, has a key twice. -/
def Distinct : Json → Prop
  | .array items => ItemsDistinct items
  | .object fields => Entries.Distinct fields ∧ FieldsDistinct fields
  | _ => True

/-- All items are distinct. -/
def ItemsDistinct : List Json → Prop
  | [] => True
  | item :: rest => Distinct item ∧ ItemsDistinct rest

/-- The values of all fields are distinct. -/
def FieldsDistinct : List (String × Json) → Prop
  | [] => True
  | (_, field) :: rest => Distinct field ∧ FieldsDistinct rest

end

end Json

namespace Node

mutual

/-- No map, at any depth, has a key twice. -/
def Distinct : Node → Prop
  | .scalar _ => True
  | .map entries => Entries.Distinct entries ∧ EntriesDistinct entries
  | .list items => ItemsDistinct items

/-- The children under all keys are distinct. -/
def EntriesDistinct : List (String × Node) → Prop
  | [] => True
  | (_, child) :: rest => Distinct child ∧ EntriesDistinct rest

/-- All items are distinct. -/
def ItemsDistinct : List Node → Prop
  | [] => True
  | item :: rest => Distinct item ∧ ItemsDistinct rest

end

mutual

/-- Whether the structure is distinct can be computed. -/
def decideDistinct : (node : Node) → Decidable (Distinct node)
  | .scalar _ => .isTrue trivial
  | .map entries =>
    have := decideEntriesDistinct entries
    inferInstanceAs (Decidable (Entries.Distinct entries ∧ EntriesDistinct entries))
  | .list items => decideItemsDistinct items

/-- The children under all keys, one by one. -/
def decideEntriesDistinct : (entries : List (String × Node)) → Decidable (EntriesDistinct entries)
  | [] => .isTrue trivial
  | (_, child) :: rest =>
    have := decideDistinct child
    have := decideEntriesDistinct rest
    inferInstanceAs (Decidable (Distinct child ∧ EntriesDistinct rest))

/-- The items, one by one. -/
def decideItemsDistinct : (items : List Node) → Decidable (ItemsDistinct items)
  | [] => .isTrue trivial
  | item :: rest =>
    have := decideDistinct item
    have := decideItemsDistinct rest
    inferInstanceAs (Decidable (Distinct item ∧ ItemsDistinct rest))

end

instance (node : Node) : Decidable (Distinct node) := decideDistinct node

/-! ## Building -/

theorem entriesDistinct_insert {entries : List (String × Node)} {key : String} {child : Node}
    (h : EntriesDistinct entries) (hc : Distinct child) :
    EntriesDistinct (Entries.insert entries key child) := by
  induction entries with
  | nil => exact ⟨hc, trivial⟩
  | cons entry rest ih =>
    obtain ⟨k, other⟩ := entry
    rw [Entries.insert]
    split
    · exact ⟨hc, h.2⟩
    · exact ⟨h.1, ih h.2⟩

theorem distinct_insert {node child : Node} (h : Distinct node) (key : String)
    (hc : Distinct child) : Distinct (node.insert key child) := by
  cases node with
  | scalar v => exact h
  | map entries => exact ⟨Entries.distinct_insert h.1 .., entriesDistinct_insert h.2 hc⟩
  | list items => exact h

theorem distinct_ofEntries {entries : List (String × Node)} (h : EntriesDistinct entries) :
    Distinct (ofEntries entries) := by
  refine ⟨Entries.distinct_ofList _, ?_⟩
  suffices hs : ∀ built, EntriesDistinct built → EntriesDistinct
      (entries.foldl (fun built (key, child) => Entries.insert built key child) built) from
    hs [] trivial
  induction entries with
  | nil => exact fun _ hb => hb
  | cons entry rest ih => exact fun built hb => ih h.2 _ (entriesDistinct_insert hb h.1)

/-- Entries with distinct keys are collected to what they are. -/
theorem ofEntries_of_distinct {entries : List (String × Node)} (h : Entries.Distinct entries) :
    ofEntries entries = .map entries :=
  congrArg map (Entries.ofList_eq_self h)

/-! ## JSON -/

@[simp] theorem keys_entriesOfJson (fields : List (String × Json)) :
    Entries.keys (entriesOfJson fields) = Entries.keys fields := by
  induction fields with
  | nil => rfl
  | cons field rest ih => simpa [entriesOfJson, Entries.keys] using ih

@[simp] theorem keys_entriesToJson (entries : List (String × Node)) :
    Entries.keys (entriesToJson entries) = Entries.keys entries := by
  induction entries with
  | nil => rfl
  | cons entry rest ih => simpa [entriesToJson, Entries.keys] using ih

mutual

theorem distinct_ofJson : ∀ {json : Json}, json.Distinct → Distinct (ofJson json)
  | .array items, h => itemsDistinct_itemsOfJson h
  | .object fields, h => by
    refine ⟨?_, entriesDistinct_entriesOfJson h.2⟩
    rw [Entries.Distinct, keys_entriesOfJson]
    exact h.1
  | .null, _ | .boolean _, _ | .integer _, _ | .float _, _ | .string _, _ => trivial

theorem itemsDistinct_itemsOfJson :
    ∀ {items : List Json}, Json.ItemsDistinct items → ItemsDistinct (itemsOfJson items)
  | [], _ => trivial
  | _ :: _, h => ⟨distinct_ofJson h.1, itemsDistinct_itemsOfJson h.2⟩

theorem entriesDistinct_entriesOfJson : ∀ {fields : List (String × Json)},
    Json.FieldsDistinct fields → EntriesDistinct (entriesOfJson fields)
  | [], _ => trivial
  | _ :: _, h => ⟨distinct_ofJson h.1, entriesDistinct_entriesOfJson h.2⟩

end

mutual

theorem distinct_toJson : ∀ {node : Node}, Distinct node → (toJson node).Distinct
  | .scalar v, _ => by
    cases v <;> simp only [toJson, Value.toJson, Json.Distinct]
    rw [Json.ofBinary64]
    split <;> trivial
  | .map entries, h => by
    refine ⟨?_, fieldsDistinct_entriesToJson h.2⟩
    rw [Entries.Distinct, keys_entriesToJson]
    exact h.1
  | .list items, h => itemsDistinct_itemsToJson h

theorem itemsDistinct_itemsToJson :
    ∀ {items : List Node}, ItemsDistinct items → Json.ItemsDistinct (itemsToJson items)
  | [], _ => trivial
  | _ :: _, h => ⟨distinct_toJson h.1, itemsDistinct_itemsToJson h.2⟩

theorem fieldsDistinct_entriesToJson : ∀ {entries : List (String × Node)},
    EntriesDistinct entries → Json.FieldsDistinct (entriesToJson entries)
  | [], _ => trivial
  | _ :: _, h => ⟨distinct_toJson h.1, fieldsDistinct_entriesToJson h.2⟩

end

end Node

end Placeholder
