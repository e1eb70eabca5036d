import Placeholder.Proofs.Shape.Inside

/-!
# Lists for types of a fixed size

A tuple, an array, a series of fields and a record without defaults have a fixed number of
components, and a list for one of them must have an item for each (`readSeries_eq_ok_iff`).  Reading
stops when the last component is read: the items after it are never looked at (`readSeries_append`),
and there may be any number of them, wherever in a structure the list stands.

Main statement: `extract_sized_exact`.
-/

namespace Placeholder

variable {ν : Type}

/-! ## Components -/

/-- What the components are read as, if there is a fixed number of them. -/
def Demand.sized? : Demand ν → Option (List (Shape ν))
  | .series _ _ shapes => some shapes
  | .record _ fields _ =>
    if fields.all (·.default?.isNone) then some (fields.map (·.shape)) else none
  | _ => none

/-- The components of a datum of a fixed size. -/
def Datum.components : Datum → List Datum
  | .series data => data
  | .record fields => fields.map Prod.snd
  | _ => []

/-- The shapes of the catalog that have a fixed size. -/
example : (Catalog.shapes.filterMap fun pair =>
      (Demand.ofShape Catalog.schema pair.2).sized?.map fun shapes => (pair.1, shapes.length)) =
    [("pair", 2), ("array2", 2), ("customer", 3), ("order", 4), ("webhook", 5), ("point", 2)] := by
  decide

/-! ## Series -/

section

variable {schema : Schema ν} {counted : String} {fields : List (Field ν)} {path : Path}

/-- Items that are left over are not looked at. -/
theorem readSeries_append {items : List Node} (h : fields.length ≤ items.length)
    (surplus : List Node) (position : Nat) :
    readSeries schema counted fields path position (items ++ surplus) =
      readSeries schema counted fields path position items := by
  induction items generalizing fields position with
  | nil =>
    obtain rfl := List.eq_nil_of_length_eq_zero (Nat.le_zero.1 h)
    cases surplus with
    | nil => rfl
    | cons item rest =>
      simp only [List.nil_append, readSeries]
      rfl
  | cons item rest ih =>
    cases fields with
    | nil => simp only [List.cons_append, readSeries]
    | cons field fields =>
      simp only [List.cons_append, readSeries, ih (Nat.le_of_succ_le_succ h)]

end

/-! ## Component by component -/

/-- A component and the item that is to be read as it, read alone. -/
def ComponentRead (schema : Schema ν) (part : Shape ν × Node) (datum : Datum) : Prop :=
  part.2.extract schema part.1 = .ok datum

section

variable {schema : Schema ν} (hschema : ∀ name, (schema name).labelled = true)

include hschema

/-- Where a node stands does not count for what it is read as. -/
theorem extractAt_eq_ok_iff {shape : Shape ν} (hshape : shape.labelled = true) {node : Node}
    (path : Path) {datum : Datum} :
    node.extractAt schema shape path = .ok datum ↔ node.extract schema shape = .ok datum :=
  ⟨fun h => readAnywhere_of_readSomewhere hschema hshape ⟨path, h⟩ [],
    fun h => readAnywhere_of_readSomewhere hschema hshape ⟨[], h⟩ path⟩

/-- A list is read for fields without defaults if there is an item for each that is read as it. -/
theorem readSeries_eq_ok_iff {counted : String} {fields : List (Field ν)}
    (hfields : ∀ field ∈ fields, field.shape.labelled = true ∧ field.default? = none) {path : Path}
    {position : Nat} {items : List Node} {data : List Datum} :
    readSeries schema counted fields path position items = .ok data ↔
      fields.length ≤ items.length ∧
        List.Forall₂ (ComponentRead schema) ((fields.map (·.shape)).zip items) data := by
  induction items generalizing fields position data with
  | nil =>
    rw [readSeries, unreported_eq_ok_iff, List.zip_nil_right, List.forall₂_nil_left_iff]
    cases fields with
    | nil => exact ⟨fun h => ⟨Nat.le_refl _, (Except.ok.inj h).symm⟩, fun h => congrArg _ h.2.symm⟩
    | cons field fields =>
      rw [defaults, (hfields field List.mem_cons_self).2]
      constructor
      · intro h
        cases h
      · exact fun h => absurd h.1 (Nat.not_succ_le_zero _)
  | cons item rest ih =>
    cases fields with
    | nil =>
      rw [readSeries, List.map_nil, List.zip_nil_left, List.forall₂_nil_left_iff]
      exact ⟨fun h => ⟨Nat.zero_le _, (Except.ok.inj h).symm⟩, fun h => congrArg _ h.2.symm⟩
    | cons field fields =>
      have hshape := (hfields field List.mem_cons_self).1
      have hrest : ∀ others,
          readSeries schema counted fields path (position + 1) rest = .ok others ↔
            fields.length ≤ rest.length ∧
              List.Forall₂ (ComponentRead schema) ((fields.map (·.shape)).zip rest) others :=
        fun _ => ih fun field hfield => hfields field (.tail _ hfield)
      rw [readSeries, bind_eq_ok_iff, List.map_cons, List.zip_cons_cons,
        List.length_cons, List.length_cons, Nat.succ_le_succ_iff]
      constructor
      · rintro ⟨datum, hdatum, h⟩
        obtain ⟨others, hothers, h⟩ := bind_eq_ok_iff.1 h
        obtain rfl := Except.ok.inj h
        obtain ⟨hlength, hothers⟩ := (hrest _).1 hothers
        exact ⟨hlength, .cons ((extractAt_eq_ok_iff hschema hshape _).1 hdatum) hothers⟩
      · rintro ⟨hlength, h⟩
        cases h with
        | cons hdatum hothers =>
          exact ⟨_, (extractAt_eq_ok_iff hschema hshape _).2 hdatum,
            bind_eq_ok_iff.2 ⟨_, (hrest _).2 ⟨hlength, hothers⟩, rfl⟩⟩

end

/-! ## Demands of a fixed size -/

/-- How a list is read as what has a fixed size: as fields that must all be there. -/
structure SizedWalk (schema : Schema ν) (demand : Demand ν) (shapes : List (Shape ν)) where
  counted : String
  fields : List (Field ν)
  build : List Datum → Datum
  shapes_eq : fields.map (·.shape) = shapes
  required : ∀ field ∈ fields, field.default? = none
  readNode_eq : ∀ path items, readNode schema demand path (.list items) =
    reported path ((readSeries schema counted fields path 0 items).map build)
  components_build : ∀ data : List Datum, data.length = fields.length →
    (build data).components = data

theorem SizedWalk.length_eq {schema : Schema ν} {demand : Demand ν} {shapes : List (Shape ν)}
    (walk : SizedWalk schema demand shapes) : walk.fields.length = shapes.length :=
  (List.length_map _).symm.trans (congrArg List.length walk.shapes_eq)

section

variable (schema : Schema ν) {demand : Demand ν} {shapes : List (Shape ν)}
  (h : demand.sized? = some shapes)

include h

theorem nonempty_sizedWalk : Nonempty (SizedWalk schema demand shapes) := by
  cases demand with
  | series title counted inner =>
    obtain rfl := Option.some.inj h
    refine ⟨{ counted, fields := seriesFields inner, build := .series, shapes_eq := ?_
              required := ?_, readNode_eq := ?_, components_build := fun _ _ => rfl }⟩
    · rw [seriesFields, List.map_map]
      exact List.map_id _
    · intro field hfield
      obtain ⟨shape, -, rfl⟩ := List.mem_map.1 hfield
      rfl
    · intro path items
      simp only [readNode]
  | record title fields closed =>
    obtain ⟨hdefaults, hshapes⟩ := Option.ite_none_right_eq_some.1 h
    refine ⟨{ counted := countedTitle title fields.length, fields
              build := fun data => .record ((fields.map (·.name)).zip data)
              shapes_eq := Option.some.inj hshapes
              required := ?_, readNode_eq := ?_, components_build := ?_ }⟩
    · intro field hfield
      exact Option.isNone_iff_eq_none.1 (List.all_eq_true.1 hdefaults field hfield)
    · intro path items
      simp only [readNode]
    · intro data hlength
      exact List.map_snd_zip (by rw [List.length_map]; exact Nat.le_of_eq hlength)
  | _ => cases h

theorem readNode_append_of_sized? {items : List Node} (hlength : shapes.length ≤ items.length)
    (surplus : List Node) (path : Path) :
    readNode schema demand path (.list (items ++ surplus)) =
      readNode schema demand path (.list items) := by
  obtain ⟨walk⟩ := nonempty_sizedWalk schema h
  rw [← walk.length_eq] at hlength
  rw [walk.readNode_eq, walk.readNode_eq, readSeries_append hlength]

theorem labelled_of_sized? (hdemand : demand.labelled = true) :
    ∀ shape ∈ shapes, shape.labelled = true := by
  cases demand with
  | series title counted inner =>
    obtain rfl := Option.some.inj h
    exact List.all_eq_true.1 hdemand
  | record title fields closed =>
    obtain rfl := Option.some.inj (Option.ite_none_right_eq_some.1 h).2
    intro shape hshape
    obtain ⟨field, hfield, rfl⟩ := List.mem_map.1 hshape
    exact List.all_eq_true.1 hdemand field hfield
  | _ => cases h

variable {schema} (hschema : ∀ name, (schema name).labelled = true)
  (hdemand : demand.labelled = true)

include hschema hdemand

theorem readNode_eq_ok_iff_of_sized? {items : List Node} {path : Path} {data : List Datum} :
    (∃ datum, readNode schema demand path (.list items) = .ok datum ∧ datum.components = data) ↔
      shapes.length ≤ items.length ∧
        List.Forall₂ (ComponentRead schema) (shapes.zip items) data := by
  obtain ⟨walk⟩ := nonempty_sizedWalk schema h
  have hfields : ∀ field ∈ walk.fields, field.shape.labelled = true ∧ field.default? = none := by
    intro field hfield
    refine ⟨labelled_of_sized? h hdemand _ ?_, walk.required field hfield⟩
    rw [← walk.shapes_eq]
    exact List.mem_map_of_mem hfield
  have hwalk : ∀ data, readSeries schema walk.counted walk.fields path 0 items = .ok data ↔
      shapes.length ≤ items.length ∧
        List.Forall₂ (ComponentRead schema) (shapes.zip items) data := by
    intro data
    rw [readSeries_eq_ok_iff hschema hfields, walk.shapes_eq, walk.length_eq]
  have hcomponents : ∀ data, readSeries schema walk.counted walk.fields path 0 items = .ok data →
      (walk.build data).components = data := by
    intro data hdata
    obtain ⟨hle, hparts⟩ := (hwalk data).1 hdata
    apply walk.components_build
    rw [← hparts.length_eq, List.length_zip, Nat.min_eq_left hle, walk.length_eq]
  rw [walk.readNode_eq, ← hwalk]
  constructor
  · rintro ⟨datum, hdatum, rfl⟩
    obtain ⟨data, hdata, rfl⟩ := map_eq_ok_iff.1 (reported_eq_ok_iff.1 hdatum)
    rw [hcomponents data hdata]
    exact hdata
  · intro hdata
    exact ⟨walk.build data, reported_eq_ok_iff.2 (map_eq_ok_iff.2 ⟨data, hdata, rfl⟩),
      hcomponents data hdata⟩

end

/-! ## Inside of a structure -/

/-- A list for a type of a fixed size that has an item for each component gets more items. -/
inductive Surplus (schema : Schema ν) : Option (Expected ν) → Node → Node → Prop where
  | intro {expected : Expected ν} {shapes : List (Shape ν)} {items : List Node}
      (hsized : (expected.demand schema).sized? = some shapes)
      (hlength : shapes.length ≤ items.length) (surplus : List Node) :
      Surplus schema (some expected) (.list items) (.list (items ++ surplus))

theorem readAlike_of_surplus {schema : Schema ν} {expected? : Option (Expected ν)}
    {node node' : Node} (h : Surplus schema expected? node node') :
    ReadAlike schema expected? node node' := by
  cases h with
  | @intro expected shapes items hsized hlength surplus =>
    refine readAlike_of_readNode rfl rfl fun other hother path => ?_
    obtain rfl := Option.some.inj hother
    rw [readNode_append_of_sized? schema hsized hlength]
    exact .refl _

section

variable {schema : Schema ν} (hschema : ∀ name, (schema name).labelled = true) {shape : Shape ν}
  (hshape : shape.labelled = true)

include hschema hshape

/-- A list inside of a structure, where a type of a fixed size is expected.  The structure is read
only if the list has an item for each component at least, and the list itself is read just in this
case and if each component is read from its item.  Further items at the end of such lists are never
looked at, whatever they are: the list is read in the same way without them, the failure if there is
one included, and with or without them in any such list the whole structure is read as the same
datum, or not at all. -/
theorem extract_sized_exact {node : Node} {place : Path} {found : Expected ν}
    (hat : (Expected.shape shape).at? schema node place = some found)
    {shapes : List (Shape ν)} (hsized : (found.demand schema).sized? = some shapes)
    {items : List Node} (hfollow : node.follow? place = some (.list items)) :
    (∀ datum, node.extract schema shape = .ok datum → shapes.length ≤ items.length) ∧
    (∀ path data,
      (∃ datum, readNode schema (found.demand schema) path (.list items) = .ok datum ∧
        datum.components = data) ↔
      shapes.length ≤ items.length ∧
        List.Forall₂ (ComponentRead schema) (shapes.zip items) data) ∧
    (shapes.length ≤ items.length → ∀ surplus,
      (∀ path, readNode schema (found.demand schema) path (.list (items ++ surplus)) =
        readNode schema (found.demand schema) path (.list items)) ∧
      ∃ node', ChangedInside schema (Surplus schema) (some (.shape shape)) node node' ∧
        node'.follow? place = some (.list (items ++ surplus))) ∧
    ∀ node', ChangedInside schema (Surplus schema) (some (.shape shape)) node node' →
      ∀ datum, node.extract schema shape = .ok datum ↔ node'.extract schema shape = .ok datum := by
  have hexpected : (Expected.shape shape).labelled = true := hshape
  have hdemand : (found.demand schema).labelled = true :=
    Expected.labelled_demand hschema (Expected.labelled_of_at? hschema hexpected hat)
  refine ⟨fun datum hdatum => ?_, fun path data => ?_, fun hlength surplus => ⟨fun path => ?_, ?_⟩,
    fun node' hchanged datum => ?_⟩
  · have hread : (Expected.shape shape).readAt schema [] node = .ok datum := hdatum
    obtain ⟨path, inner, hinner⟩ := exists_readAt_of_at? hread hat hfollow
    obtain ⟨whole, hwhole⟩ :=
      Expected.exists_readNode_of_readAt (ne_null_of_value? rfl) hinner
    exact ((readNode_eq_ok_iff_of_sized? hsized hschema hdemand).1 ⟨whole, hwhole, rfl⟩).1
  · exact readNode_eq_ok_iff_of_sized? hsized hschema hdemand
  · exact readNode_append_of_sized? schema hsized hlength surplus path
  · exact exists_changedInside hat hfollow (.intro hsized hlength surplus)
  · have htyped := Demand.typed_of_labelled hschema (Expected.labelled_demand hschema hexpected)
    have halike := readAlike_of_changedInside (fun _ => readAlike_of_surplus)
      (fun expected heq => Option.some.inj heq ▸ htyped) hchanged
    exact halike.readAt _ rfl [] datum

end

/-- A channel with three items for a pair. -/
theorem extract_sized_channel :
    let node : Node := .list [.map [("Pair",
      .list [.scalar (.string "a"), .scalar (.integer 1), .map []])]]
    node.extract Catalog.schema (.list (.declared .channel)) =
      .ok (.series [.tagged "Pair" (.series [.string "a", .integer 1])]) ∧
    ∃ node' : Node, node'.follow? [.index 0, .key "Pair"] =
        some (.list [.scalar (.string "a"), .scalar (.integer 1), .map [], .list []]) ∧
      node'.extract Catalog.schema (.list (.declared .channel)) =
        .ok (.series [.tagged "Pair" (.series [.string "a", .integer 1])]) := by
  intro node
  have hread : node.extract Catalog.schema (.list (.declared .channel)) =
      .ok (.series [.tagged "Pair" (.series [.string "a", .integer 1])]) := by
    rfl
  have hshape : (Shape.list (.declared Catalog.Name.channel)).labelled = true := rfl
  have hat : (Expected.shape (.list (.declared .channel))).at? Catalog.schema node
      [.index 0, .key "Pair"] =
        some (.payload (.ofSeries "tuple variant Channel::Pair"
          [.string, .integer (.signed 32)])) := rfl
  obtain ⟨hlength, -, hsurplus, hsame⟩ :=
    extract_sized_exact Catalog.labelled_schema hshape hat rfl rfl
  obtain ⟨-, node', hchanged, hfollow⟩ := hsurplus (hlength _ hread) [.list []]
  exact ⟨hread, node', hfollow, (hsame node' hchanged _).1 hread⟩

/-- There may be more items than components. -/
theorem not_forall_extract_length_eq :
    ¬ ∀ (items : List Node) (datum : Datum),
      (Node.list items).extract Catalog.schema (.pair .string (.integer (.signed 32))) =
        .ok datum → items.length = 2 := by
  intro h
  have hlength := h [.scalar (.string "a"), .scalar (.integer 1), .scalar (.integer 2)]
    (.series [.string "a", .integer 1]) rfl
  cases hlength

end Placeholder
