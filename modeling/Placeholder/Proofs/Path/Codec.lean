import Placeholder.Proofs.Shape.Walks

/-!
# Paths as JSON

The JSON of a path is an array with one item for each segment: a text for a key and a whole number
for a position (`Segment.Writes`, `Path.Writes`).  Nothing in an item says which kind of segment it
is but the kind of JSON.  That is enough to tell: reading tries the kinds one after the other, and
no item is accepted by two of them.

Main statement: reading and writing undo each other, and what can be read is what is written of
some path (`Path.ofJson_exact`).
-/

namespace Placeholder

/-- A whole number that is not negative. -/
def Untyped.position? : Untyped → Option Nat
  | .integer i => if 0 ≤ i then some i.toNat else none
  | _ => none

namespace Segment

/-! ## Segments -/

/-- The kinds of a segment, in the order in which they are tried. -/
def kinds : List (Untyped → Option Segment) :=
  [fun data => data.string?.map .key, fun data => data.position?.map .index]

/-- The JSON is what is written of the segment. -/
inductive Writes : Segment → Json → Prop where
  | key (name : String) : Writes (.key name) (.string name)
  | index (position : Nat) : Writes (.index position) (.integer position)

variable {segment : Segment} {json : Json}

theorem ofUntyped?_eq_findSome? (data : Untyped) : ofUntyped? data = kinds.findSome? (· data) := by
  cases data with
  | integer i =>
    simp only [ofUntyped?, kinds, Untyped.string?, Untyped.position?, List.findSome?]
    split <;> rfl
  | null | boolean | float | string | list | map => rfl

theorem ofUntyped?_ofJson_eq_some_iff :
    ofUntyped? (Untyped.ofJson json) = some segment ↔ Writes segment json := by
  constructor
  · intro h
    cases json with
    | string name =>
      obtain rfl := Option.some.inj h
      exact .key name
    | integer i =>
      obtain ⟨hnonneg, hsegment⟩ := Option.ite_none_right_eq_some.1 h
      obtain rfl := Option.some.inj hsegment
      have hwrites := Writes.index i.toNat
      rwa [Int.toNat_of_nonneg hnonneg] at hwrites
    | null | boolean | float | array | object => cases h
  · intro h
    cases h with
    | key name => rfl
    | index position =>
      have hnonneg : (0 : Int) ≤ position := Int.natCast_nonneg position
      rw [Untyped.ofJson, ofUntyped?, if_pos hnonneg, Int.toNat_natCast]

theorem toJson_eq_iff : segment.toUntyped.toJson = json ↔ Writes segment json := by
  constructor
  · rintro rfl
    cases segment with
    | key name => exact .key name
    | index position => exact .index position
  · intro h
    cases h <;> rfl

/-- Texts and whole numbers that are not negative are written of some segment, and nothing else
is. -/
theorem exists_writes_iff :
    (∃ segment, Writes segment json) ↔
      (∃ name, json = .string name) ∨ ∃ i, 0 ≤ i ∧ json = .integer i := by
  constructor
  · rintro ⟨segment, h⟩
    cases h with
    | key name => exact .inl ⟨name, rfl⟩
    | index position => exact .inr ⟨position, Int.natCast_nonneg position, rfl⟩
  · rintro (⟨name, rfl⟩ | ⟨i, hnonneg, rfl⟩)
    · exact ⟨_, .key name⟩
    · obtain ⟨position, rfl⟩ := Int.eq_ofNat_of_zero_le hnonneg
      exact ⟨_, .index position⟩

end Segment

namespace Path

/-! ## Paths -/

/-- The JSON is what is written of the path. -/
def Writes (path : Path) (json : Json) : Prop :=
  ∃ items, json = .array items ∧ List.Forall₂ Segment.Writes path items

variable {path : Path} {json : Json}

/-- The items of an array are read one by one, and all must be segments. -/
theorem ofUntyped_itemsOfJson_eq_ok_iff {items : List Json} :
    Path.ofUntyped (.list (Untyped.itemsOfJson items)) = .ok path ↔
      List.Forall₂ Segment.Writes path items := by
  rw [Path.ofUntyped]
  induction items generalizing path with
  | nil =>
    rw [List.forall₂_nil_right_iff]
    constructor
    · intro h
      exact (Except.ok.inj h).symm
    · rintro rfl
      rfl
  | cons item rest ih =>
    rw [Untyped.itemsOfJson, List.mapM_cons]
    constructor
    · intro h
      obtain ⟨segment, hsegment, h⟩ := bind_eq_ok_iff.1 h
      obtain ⟨others, hothers, h⟩ := bind_eq_ok_iff.1 h
      obtain rfl : segment :: others = path := Except.ok.inj h
      split at hsegment
      · next found hfound =>
        obtain rfl := Except.ok.inj hsegment
        exact .cons (Segment.ofUntyped?_ofJson_eq_some_iff.1 hfound) (ih.1 hothers)
      · cases hsegment
    · intro h
      cases h with
      | cons hitem hrest =>
        rw [Segment.ofUntyped?_ofJson_eq_some_iff.2 hitem, ih.2 hrest]
        rfl

theorem ofJson_eq_ok_iff : Path.ofJson json = .ok path ↔ path.Writes json := by
  constructor
  · intro h
    cases json with
    | array items => exact ⟨items, rfl, ofUntyped_itemsOfJson_eq_ok_iff.1 h⟩
    | null | boolean | integer | float | string | object => cases h
  · rintro ⟨items, rfl, h⟩
    exact ofUntyped_itemsOfJson_eq_ok_iff.2 h

theorem itemsToJson_eq_iff {items : List Json} :
    Untyped.itemsToJson (path.map Segment.toUntyped) = items ↔
      List.Forall₂ Segment.Writes path items := by
  induction path generalizing items with
  | nil =>
    rw [List.forall₂_nil_left_iff]
    exact eq_comm
  | cons segment rest ih =>
    rw [List.map_cons, Untyped.itemsToJson]
    constructor
    · rintro rfl
      exact .cons (Segment.toJson_eq_iff.1 rfl) (ih.1 rfl)
    · intro h
      cases h with
      | cons hsegment hrest => rw [Segment.toJson_eq_iff.2 hsegment, ih.2 hrest]

theorem toJson_eq_iff : path.toJson = json ↔ path.Writes json := by
  constructor
  · rintro rfl
    exact ⟨_, rfl, itemsToJson_eq_iff.1 rfl⟩
  · rintro ⟨items, rfl, h⟩
    exact congrArg Json.array (itemsToJson_eq_iff.2 h)

theorem exists_forall₂_writes_iff {items : List Json} :
    (∃ path : Path, List.Forall₂ Segment.Writes path items) ↔
      ∀ item ∈ items, ∃ segment : Segment, segment.Writes item := by
  constructor
  · rintro ⟨path, h⟩ item hitem
    obtain ⟨segment, -, hsegment⟩ := exists_of_mem_forall₂ h hitem
    exact ⟨segment, hsegment⟩
  · intro h
    induction items with
    | nil => exact ⟨[], .nil⟩
    | cons item rest ih =>
      obtain ⟨segment, hsegment⟩ := h item List.mem_cons_self
      obtain ⟨path, hpath⟩ := ih fun other hother => h other (List.mem_cons_of_mem _ hother)
      exact ⟨segment :: path, .cons hsegment hpath⟩

/-- The positions of a path are the numbers of its JSON, so they are bounded alike. -/
theorem forall_index_lt_iff {items : List Json} (h : List.Forall₂ Segment.Writes path items)
    (bound : Nat) :
    (∀ position, Segment.index position ∈ path → position < bound) ↔
      ∀ i, Json.integer i ∈ items → i < bound := by
  constructor
  · intro hpath i hi
    obtain ⟨segment, hmem, hwrites⟩ := exists_of_mem_forall₂ h hi
    cases hwrites with
    | index position => exact Int.ofNat_lt.2 (hpath position hmem)
  · intro hitems position hposition
    obtain ⟨item, hmem, hwrites⟩ := exists_of_mem_forall₂_left h hposition
    cases hwrites
    exact Int.ofNat_lt.1 (hitems _ hmem)

/-- The kinds of a segment are tried in order, and the first that accepts the data wins.  Read in
this way, what is written of a path gives the path again, and a path is read from JSON exactly if
the JSON is what is written of the path.  Some path is read exactly if the JSON is an array of texts
and of whole numbers that are not negative.  Each text is then a key and each number a position,
whatever the text looks like, and the positions keep below a bound exactly if the numbers do. -/
theorem ofJson_exact (path : Path) (json : Json) :
    (∀ data, Segment.ofUntyped? data = Segment.kinds.findSome? (· data)) ∧
    Path.ofJson path.toJson = .ok path ∧
    (Path.ofJson json = .ok path ↔ path.toJson = json) ∧
    ((∃ found, Path.ofJson json = .ok found) ↔
      ∃ items, json = .array items ∧
        ∀ item ∈ items, (∃ name, item = .string name) ∨ ∃ i, 0 ≤ i ∧ item = .integer i) ∧
    ∃ items, path.toJson = .array items ∧ List.Forall₂ Segment.Writes path items ∧
      ∀ bound : Nat, (∀ position, Segment.index position ∈ path → position < bound) ↔
        ∀ i, Json.integer i ∈ items → i < bound := by
  have hwritten : path.Writes path.toJson := toJson_eq_iff.1 rfl
  have hroundtrip : Path.ofJson path.toJson = .ok path := ofJson_eq_ok_iff.2 hwritten
  obtain ⟨items, hitems, hwrites⟩ := hwritten
  refine ⟨Segment.ofUntyped?_eq_findSome?, hroundtrip, ofJson_eq_ok_iff.trans toJson_eq_iff.symm,
    ?_, items, hitems, hwrites, forall_index_lt_iff hwrites⟩
  simp only [ofJson_eq_ok_iff, ← Segment.exists_writes_iff, ← exists_forall₂_writes_iff]
  constructor
  · rintro ⟨found, array, hjson, hfound⟩
    exact ⟨array, hjson, found, hfound⟩
  · rintro ⟨array, hjson, found, hfound⟩
    exact ⟨found, array, hjson, hfound⟩

/-- A key stays a key, though it looks like a number or has no characters. -/
example : Path.ofJson (.array [.string "1", .integer 1, .string ""]) =
    .ok [.key "1", .index 1, .key ""] := rfl

end Path

end Placeholder
