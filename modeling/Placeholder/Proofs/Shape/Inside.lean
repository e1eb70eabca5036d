import Placeholder.Proofs.Shape.Unlabelled

/-!
# What is read inside

A structure is read only if everything that is expected somewhere inside of it is read there
(`exists_readAt_of_at?`).  And what it is read as depends on a child only through what the child is
read as: another child that is read in the same way may be put in its place
(`sameSuccess_readNode`).  So whatever may be changed in a node may be changed anywhere inside of a
structure (`readAlike_of_changedInside`), unless the structure is kept as it is where the change is
made (`Demand.Typed`).

A child of which nothing is expected counts at most as a scalar: as the segment of a path, or as the
null that a variant without data may have.
-/

namespace Placeholder

variable {ν : Type} {schema : Schema ν}

/-! ## From the root to a place -/

section

variable {path : Path} {position : Nat}

theorem exists_of_readSeries {counted : String} {fields : List (Field ν)} {items : List Node}
    {data : List Datum}
    (h : readSeries schema counted fields path position items = .ok data) {i : Nat}
    {field : Field ν} (hfield : fields[i]? = some field) {item : Node}
    (hitem : items[i]? = some item) : ∃ datum, ReadSomewhere schema field.shape item datum := by
  induction items generalizing fields position data i with
  | nil => simp at hitem
  | cons first rest ih =>
    cases fields with
    | nil => simp at hfield
    | cons firstField fields =>
      rw [readSeries] at h
      obtain ⟨datum, hdatum, h⟩ := bind_eq_ok_iff.1 h
      obtain ⟨others, hothers, -⟩ := bind_eq_ok_iff.1 h
      cases i with
      | zero =>
        obtain rfl := Option.some.inj hfield
        obtain rfl := Option.some.inj hitem
        exact ⟨datum, _, hdatum⟩
      | succ i => exact ih hothers hfield hitem

/-- A node is read only if each of its children is read as what is expected of it. -/
theorem exists_readAt_of_inside? {demand : Demand ν} {node child : Node} {datum : Datum}
    {segment : Segment} {expected : Expected ν}
    (h : readNode schema demand path node = .ok datum)
    (hinside : demand.inside? node segment = some expected)
    (hchild : node.child? segment = some child) :
    ∃ place inner, expected.readAt schema place child = .ok inner := by
  unfold Demand.inside? at hinside
  split at hinside
  · next inner items position =>
    obtain rfl := Option.some.inj hinside
    simp only [readNode, reported_eq_ok_iff] at h
    obtain ⟨data, hdata, -⟩ := map_eq_ok_iff.1 h
    obtain ⟨other, -, place, hother⟩ :=
      exists_of_mem_forall₂_left (forall₂_of_readAll hdata) (List.mem_of_getElem? hchild)
    exact ⟨place, other, hother⟩
  · next title counted shapes items position =>
    obtain ⟨shape, hshape, rfl⟩ := Option.map_eq_some_iff.1 hinside
    simp only [readNode, reported_eq_ok_iff] at h
    obtain ⟨data, hdata, -⟩ := map_eq_ok_iff.1 h
    have hfield : (seriesFields shapes)[position]? = some { name := "", shape } := by
      rw [seriesFields, List.getElem?_map, hshape]
      rfl
    obtain ⟨other, place, hother⟩ := exists_of_readSeries hdata hfield hchild
    exact ⟨place, other, hother⟩
  · next title fields closed items position =>
    obtain ⟨field, hfield, rfl⟩ := Option.map_eq_some_iff.1 hinside
    simp only [readNode, reported_eq_ok_iff] at h
    obtain ⟨data, hdata, -⟩ := map_eq_ok_iff.1 h
    obtain ⟨other, place, hother⟩ := exists_of_readSeries hdata hfield hchild
    exact ⟨place, other, hother⟩
  · next key inner entries name =>
    obtain rfl := Option.some.inj hinside
    simp only [readNode, reported_eq_ok_iff] at h
    obtain ⟨data, hdata, -⟩ := map_eq_ok_iff.1 h
    obtain ⟨other, -, -, -, place, hother⟩ :=
      exists_of_mem_forall₂_left (forall₂_of_readEntries hdata) (Entries.mem_of_get? hchild)
    exact ⟨place, other.2, hother⟩
  · next title fields closed entries name =>
    obtain ⟨field, hfield, rfl⟩ := Option.map_eq_some_iff.1 hinside
    simp only [readNode, reported_eq_ok_iff] at h
    obtain ⟨found, hfound, -⟩ := bind_eq_ok_iff.1 h
    have hmem : (name, child) ∈ entries.filter fun entry =>
        (fields.find? (·.name = entry.1)).isSome :=
      List.mem_filter.2 ⟨Entries.mem_of_get? hchild, by rw [hfield]; rfl⟩
    obtain ⟨other, -, -, known, hknown, place, hother⟩ :=
      exists_of_mem_forall₂_left (forall₂_of_readFields hfound) hmem
    obtain rfl := Option.some.inj (hfield.symm.trans hknown)
    exact ⟨place, other.2, hother⟩
  · next title variants only tag =>
    obtain ⟨variant, hvariant, hexpected⟩ := Option.bind_eq_some_iff.1 hinside
    obtain ⟨key, other⟩ := only
    have hmem : (tag, child) ∈ [(key, other)] := Entries.mem_of_get? hchild
    obtain ⟨rfl, rfl⟩ := Prod.mk.inj (List.mem_singleton.1 hmem)
    rw [readNode_tagged hvariant child hexpected, reported_eq_ok_iff] at h
    obtain ⟨inner, hinner, -⟩ := map_eq_ok_iff.1 h
    exact ⟨_, inner, hinner⟩
  · cases hinside

end

/-- Only what is not null is read as what is expected of its children. -/
theorem Expected.exists_readNode_of_readAt {expected : Expected ν} {path : Path} {node : Node}
    {datum : Datum} (hnode : node ≠ .scalar .null)
    (h : expected.readAt schema path node = .ok datum) :
    ∃ inner, readNode schema (expected.demand schema) path node = .ok inner := by
  cases expected with
  | payload demand => exact ⟨datum, h⟩
  | shape shape =>
    have hread : shape.finish node (readNode schema (Demand.ofShape schema shape) path node) =
        .ok datum := h
    rw [Shape.finish_of_ne_null shape hnode] at hread
    obtain ⟨inner, hinner, -⟩ := map_eq_ok_iff.1 hread
    exact ⟨inner, hinner⟩

/-- A structure is read only if what is expected at each place inside of it is read there. -/
theorem exists_readAt_of_at? {expected found : Expected ν} {path place : Path} {node inner : Node}
    {datum : Datum} (h : expected.readAt schema path node = .ok datum)
    (hat : expected.at? schema node place = some found)
    (hfollow : node.follow? place = some inner) :
    ∃ other datum, found.readAt schema other inner = .ok datum := by
  induction place generalizing expected path node datum with
  | nil =>
    obtain rfl := Option.some.inj hat
    obtain rfl := Option.some.inj hfollow
    exact ⟨path, datum, h⟩
  | cons segment rest ih =>
    obtain ⟨next, hinside, hat⟩ := Option.bind_eq_some_iff.1 hat
    obtain ⟨child, hchild, hat⟩ := Option.bind_eq_some_iff.1 hat
    rw [Node.follow?, hchild] at hfollow
    have hnode : node ≠ .scalar .null := by
      rintro rfl
      cases hchild
    obtain ⟨whole, hwhole⟩ := Expected.exists_readNode_of_readAt hnode h
    obtain ⟨other, datum, hother⟩ := exists_readAt_of_inside? hwhole hinside hchild
    exact ih hother hat hfollow

/-! ## Typed data -/

/-- What is asked of a node when another demand is made of a structure around it. -/
inductive Demand.Reaches (schema : Schema ν) : Demand ν → Demand ν → Prop where
  | refl (demand : Demand ν) : Reaches schema demand demand
  | inside {demand other : Demand ν} {node : Node} {segment : Segment} {expected : Expected ν}
      (hinside : demand.inside? node segment = some expected)
      (h : Reaches schema (expected.demand schema) other) : Reaches schema demand other

/-- Nothing is read as any structure, neither the node itself nor anything inside. -/
def Demand.Typed (schema : Schema ν) (demand : Demand ν) : Prop :=
  ∀ other, Reaches schema demand other → other ≠ .node

theorem Demand.Typed.ne_node {demand : Demand ν} (h : demand.Typed schema) : demand ≠ .node :=
  h demand (.refl demand)

theorem Demand.Typed.inside {demand : Demand ν} (h : demand.Typed schema) {node : Node}
    {segment : Segment} {expected : Expected ν}
    (hinside : demand.inside? node segment = some expected) :
    (expected.demand schema).Typed schema := fun other hother => h other (.inside hinside hother)

theorem Demand.typed_of_labelled (hschema : ∀ name, (schema name).labelled = true)
    {demand : Demand ν} (h : demand.labelled = true) : demand.Typed schema := by
  intro other hother
  induction hother with
  | refl demand =>
    rintro rfl
    cases h
  | inside hinside _ ih =>
    exact ih (Expected.labelled_demand hschema (labelled_of_inside? h hinside))

theorem Demand.typed_of_inside?_eq_none {demand : Demand ν} (hdemand : demand ≠ .node)
    (h : ∀ node segment, demand.inside? node segment = none) : demand.Typed schema := by
  intro other hother
  cases hother with
  | refl => exact hdemand
  | inside hinside =>
    rw [h] at hinside
    cases hinside

theorem Demand.typed_list {inner : Shape ν} (h : (Demand.ofShape schema inner).Typed schema) :
    (Demand.list inner).Typed schema := by
  intro other hother
  cases hother with
  | refl => exact nofun
  | @inside _ _ node segment expected hinside hother =>
    have hinner : expected = .shape inner := by
      cases node <;> cases segment <;> cases hinside
      rfl
    rw [hinner] at hother
    exact h other hother

/-- All shapes of the catalog but one. -/
theorem Catalog.typed_of_shape? {name : String} {shape : Shape Name}
    (hshape : shape? name = some shape) (hname : name ≠ "node") :
    (Demand.ofShape Catalog.schema shape).Typed Catalog.schema := by
  have hvalue : Demand.Typed Catalog.schema .value :=
    Demand.typed_of_inside?_eq_none nofun fun _ _ => rfl
  by_cases hlabelled : name ∈ ["value", "vec_value", "node", "path"]
  · simp only [List.mem_cons, List.not_mem_nil, or_false] at hlabelled
    rcases hlabelled with rfl | rfl | rfl | rfl
    · obtain rfl := Option.some.inj hshape
      exact hvalue
    · obtain rfl := Option.some.inj hshape
      exact Demand.typed_list hvalue
    · exact absurd rfl hname
    · obtain rfl := Option.some.inj hshape
      exact Demand.typed_of_inside?_eq_none nofun fun _ _ => rfl
  · exact Demand.typed_of_labelled labelled_schema
      (Demand.labelled_ofShape labelled_schema (labelled_of_shape? hshape hlabelled))

/-! ## Results that are alike -/

/-- The results are the same as far as they are successes. -/
def SameSuccess {ε α : Type} (result other : Except ε α) : Prop :=
  ∀ value, result = .ok value ↔ other = .ok value

namespace SameSuccess

variable {ε α β : Type} {result other : Except ε α}

theorem refl (result : Except ε α) : SameSuccess result result := fun _ => Iff.rfl

theorem error (first second : ε) : SameSuccess (.error first : Except ε α) (.error second) :=
  fun _ => ⟨nofun, nofun⟩

theorem bind (h : SameSuccess result other) {next next' : α → Except ε β}
    (hnext : ∀ value, SameSuccess (next value) (next' value)) :
    SameSuccess (result >>= next) (other >>= next') := by
  intro value
  rw [bind_eq_ok_iff, bind_eq_ok_iff]
  exact exists_congr fun inner => and_congr (h inner) (hnext inner value)

theorem map (h : SameSuccess result other) (f : α → β) :
    SameSuccess (result.map f) (other.map f) := by
  intro value
  rw [map_eq_ok_iff, map_eq_ok_iff]
  exact exists_congr fun inner => and_congr_left fun _ => h inner

theorem reported {result other : Except ExtractionError α} (h : SameSuccess result other)
    (path : Path) : SameSuccess (reported path result) (reported path other) := by
  intro value
  rw [reported_eq_ok_iff, reported_eq_ok_iff]
  exact h value

end SameSuccess

variable (schema) in
/-- The nodes are read as the same data, wherever they stand, if something is expected of them, and
if one of them is a scalar then both are the same one. -/
structure ReadAlike (expected? : Option (Expected ν)) (node node' : Node) : Prop where
  value? : node.value? = node'.value?
  readAt : ∀ expected, expected? = some expected → ∀ path,
    SameSuccess (expected.readAt schema path node) (expected.readAt schema path node')

theorem Node.value?_eq_some_iff {node : Node} {v : Value} :
    node.value? = some v ↔ node = .scalar v := by
  cases node with
  | scalar w => rw [Node.value?, Option.some_inj, Node.scalar.injEq]
  | map | list =>
    constructor <;>
    · intro h
      cases h

theorem ReadAlike.eq_null_iff {expected? : Option (Expected ν)} {node node' : Node}
    (h : ReadAlike schema expected? node node') :
    node = .scalar .null ↔ node' = .scalar .null := by
  rw [← Node.value?_eq_some_iff, h.value?, Node.value?_eq_some_iff]

theorem ne_null_of_value? {node : Node} (h : node.value? = none) : node ≠ .scalar .null := by
  rintro rfl
  cases h

/-- It is enough to look at what is asked of nodes that are no scalars. -/
theorem readAlike_of_readNode {expected? : Option (Expected ν)} {node node' : Node}
    (hnode : node.value? = none) (hnode' : node'.value? = none)
    (h : ∀ expected, expected? = some expected → ∀ path,
      SameSuccess (readNode schema (expected.demand schema) path node)
        (readNode schema (expected.demand schema) path node')) :
    ReadAlike schema expected? node node' where
  value? := hnode.trans hnode'.symm
  readAt := by
    intro expected hexpected path
    have hread := h expected hexpected path
    cases expected with
    | payload demand => exact hread
    | shape shape =>
      show SameSuccess (shape.finish node _) (shape.finish node' _)
      rw [Shape.finish_of_ne_null shape (ne_null_of_value? hnode),
        Shape.finish_of_ne_null shape (ne_null_of_value? hnode')]
      exact hread.map shape.wrap

/-! ## One child in the place of another -/

/-- One child is put in the place of the other under a segment, and all else stays as it is. -/
inductive ChildReplaced (child child' : Node) : Segment → Node → Node → Prop where
  | item (before after : List Node) :
      ChildReplaced child child' (.index before.length) (.list (before ++ child :: after))
        (.list (before ++ child' :: after))
  | entry (key : String) (before after : List (String × Node)) :
      ChildReplaced child child' (.key key) (.map (before ++ (key, child) :: after))
        (.map (before ++ (key, child') :: after))

section

variable {child child' : Node} {path : Path}

theorem sameSuccess_readAll {inner : Shape ν}
    (h : ReadAlike schema (some (.shape inner)) child child') (before after : List Node)
    (position : Nat) :
    SameSuccess (readAll schema inner path position (before ++ child :: after))
      (readAll schema inner path position (before ++ child' :: after)) := by
  induction before generalizing position with
  | nil =>
    simp only [List.nil_append, readAll]
    exact (h.readAt _ rfl _).bind fun _ => .refl _
  | cons item before ih =>
    simp only [List.cons_append, readAll]
    exact (SameSuccess.refl _).bind fun _ => (ih _).bind fun _ => .refl _

theorem sameSuccess_readSeries {counted : String} {fields : List (Field ν)} {before : List Node}
    (h : ReadAlike schema (fields[before.length]?.map (.shape ·.shape)) child child')
    (after : List Node) (position : Nat) :
    SameSuccess (readSeries schema counted fields path position (before ++ child :: after))
      (readSeries schema counted fields path position (before ++ child' :: after)) := by
  induction before generalizing fields position with
  | nil =>
    cases fields with
    | nil =>
      simp only [List.nil_append, readSeries]
      exact .refl _
    | cons field fields =>
      simp only [List.nil_append, readSeries]
      exact (h.readAt (.shape field.shape) rfl _).bind fun _ => .refl _
  | cons item before ih =>
    cases fields with
    | nil =>
      simp only [List.cons_append, readSeries]
      exact .refl _
    | cons field fields =>
      simp only [List.cons_append, readSeries]
      exact (SameSuccess.refl _).bind fun _ => (ih h _).bind fun _ => .refl _

theorem sameSuccess_readFields {fields : List (Field ν)} {closed : Bool} {key : String}
    (h : ReadAlike schema ((fields.find? (·.name = key)).map (.shape ·.shape)) child child')
    (before after : List (String × Node)) :
    SameSuccess (readFields schema fields closed path (before ++ (key, child) :: after))
      (readFields schema fields closed path (before ++ (key, child') :: after)) := by
  induction before with
  | nil =>
    simp only [List.nil_append, readFields]
    cases hfound : fields.find? (·.name = key) with
    | none => exact .refl _
    | some field =>
      rw [hfound] at h
      exact (h.readAt (.shape field.shape) rfl _).bind fun _ => .refl _
  | cons entry before ih =>
    obtain ⟨name, other⟩ := entry
    simp only [List.cons_append, readFields]
    cases fields.find? (·.name = name) with
    | none =>
      cases closed with
      | true => exact .refl _
      | false => exact ih
    | some field => exact (SameSuccess.refl _).bind fun _ => ih.bind fun _ => .refl _

theorem sameSuccess_readEntries {keyShape : KeyShape ν} {inner : Shape ν} {key : String}
    (h : ReadAlike schema (some (.shape inner)) child child')
    (before after : List (String × Node)) :
    SameSuccess (readEntries schema keyShape inner path (before ++ (key, child) :: after))
      (readEntries schema keyShape inner path (before ++ (key, child') :: after)) := by
  induction before with
  | nil =>
    simp only [List.nil_append, readEntries]
    exact (SameSuccess.refl _).bind fun _ => (h.readAt _ rfl _).bind fun _ => .refl _
  | cons entry before ih =>
    simp only [List.cons_append, readEntries]
    exact (SameSuccess.refl _).bind fun _ => (SameSuccess.refl _).bind fun _ =>
      ih.bind fun _ => .refl _

theorem sameSuccess_readTag {title tag : String} {variants : List (Variant ν)}
    (h : ReadAlike schema (Demand.inside? (.choice title variants) (.map [(tag, child)]) (.key tag))
      child child') :
    SameSuccess (readNode schema (.choice title variants) path (.map [(tag, child)]))
      (readNode schema (.choice title variants) path (.map [(tag, child')])) := by
  have hinside : Demand.inside? (.choice title variants) (.map [(tag, child)]) (.key tag) =
      (variants.find? (·.name = tag)).bind fun variant =>
        variant.payload.expected? title tag := rfl
  cases hfound : variants.find? (·.name = tag) with
  | none =>
    rw [readNode_of_unchoosable (.unknownKey hfound), readNode_of_unchoosable (.unknownKey hfound)]
    exact .error _ _
  | some variant =>
    rw [hinside, hfound, Option.bind_some] at h
    cases hexpected : variant.payload.expected? title tag with
    | some expected =>
      rw [readNode_tagged hfound child hexpected, readNode_tagged hfound child' hexpected]
      rw [hexpected] at h
      exact ((h.readAt expected rfl _).map (Datum.tagged tag)).reported path
    | none =>
      -- The variant has no data, so that both children are null or neither is.
      have hpayload := Payload.expected?_eq_none_iff.1 hexpected
      by_cases hnull : child = .scalar .null
      · rw [hnull, h.eq_null_iff.1 hnull]
        exact .refl _
      · have hnull' : child' ≠ .scalar .null := fun heq => hnull (h.eq_null_iff.2 heq)
        rw [readNode_of_unchoosable (.withData hfound hpayload hnull),
          readNode_of_unchoosable (.withData hfound hpayload hnull')]
        exact .error _ _

/-- A map with more than one key names no variant. -/
theorem sameSuccess_readKeys {title : String} {variants : List (Variant ν)}
    {entries entries' : List (String × Node)} (h : entries.length ≠ 1)
    (h' : entries'.length ≠ 1) :
    SameSuccess (readNode schema (.choice title variants) path (.map entries))
      (readNode schema (.choice title variants) path (.map entries')) := by
  rw [readNode_of_unchoosable (.keys h), readNode_of_unchoosable (.keys h')]
  exact .error _ _

/-- Scalars that are tried as segments are told apart by nothing else. -/
theorem ofUntyped_of_value?_eq (h : child.value? = child'.value?) (before after : List Node) :
    Path.ofUntyped (Untyped.ofNode (.list (before ++ child :: after))) =
      Path.ofUntyped (Untyped.ofNode (.list (before ++ child' :: after))) := by
  have hsegment : child.segment? = child'.segment? := congrArg (·.bind Value.segment?) h
  simp only [ofUntyped_list, List.mapM_append, List.mapM_cons, hsegment]

/-- What a demand makes of a node depends on a child only through what the child is read as, unless
the node is kept as it is. -/
theorem sameSuccess_readNode {demand : Demand ν} (hdemand : demand ≠ .node)
    {segment : Segment} {node node' : Node}
    (hreplaced : ChildReplaced child child' segment node node')
    (h : ReadAlike schema (demand.inside? node segment) child child') :
    SameSuccess (readNode schema demand path node) (readNode schema demand path node') := by
  cases hreplaced with
  | item before after =>
    cases demand with
    | node => exact absurd rfl hdemand
    | value =>
      rw [readNode_value_of_value?_eq_none schema path rfl,
        readNode_value_of_value?_eq_none schema path rfl]
      exact .refl _
    | path =>
      simp only [readNode, ofUntyped_of_value?_eq h.value?]
      exact .refl _
    | list inner =>
      simp only [readNode]
      exact ((sameSuccess_readAll h before after 0).map Datum.series).reported path
    | series title counted shapes =>
      have hfields : (seriesFields shapes)[before.length]?.map (fun field => .shape field.shape) =
          shapes[before.length]?.map Expected.shape := by
        rw [seriesFields, List.getElem?_map, Option.map_map]
        rfl
      have h : ReadAlike schema (shapes[before.length]?.map Expected.shape) child child' := h
      rw [← hfields] at h
      simp only [readNode]
      exact ((sameSuccess_readSeries h after 0).map Datum.series).reported path
    | record title fields closed =>
      simp only [readNode]
      exact ((sameSuccess_readSeries h after 0).map _).reported path
    | sizes =>
      simp only [readNode, List.length_append, List.length_cons]
      exact .refl _
    | choice title variants =>
      rw [readNode_of_unchoosable .list, readNode_of_unchoosable .list]
      exact .refl _
    | string | boolean | character | unit | integer | float | map | valueFirst =>
      simp only [readNode]
      exact .refl _
  | entry key before after =>
    cases demand with
    | node => exact absurd rfl hdemand
    | value =>
      rw [readNode_value_of_value?_eq_none schema path rfl,
        readNode_value_of_value?_eq_none schema path rfl]
      exact .refl _
    | map keyShape inner =>
      simp only [readNode]
      exact ((sameSuccess_readEntries h before after).map _).reported path
    | record title fields closed =>
      simp only [readNode]
      exact ((sameSuccess_readFields h before after).bind fun _ => .refl _).reported path
    | choice title variants =>
      rcases before with _ | ⟨first, before⟩
      · rcases after with _ | ⟨second, after⟩
        · exact sameSuccess_readTag h
        · exact sameSuccess_readKeys (by simp) (by simp)
      · exact sameSuccess_readKeys (by simp) (by simp)
    | sizes =>
      simp only [readNode, List.length_append, List.length_cons]
      exact .refl _
    | string | boolean | character | unit | integer | float | list | series | path | valueFirst =>
      simp only [readNode]
      exact .refl _

theorem ChildReplaced.value?_eq_none {segment : Segment} {node node' : Node}
    (h : ChildReplaced child child' segment node node') :
    node.value? = none ∧ node'.value? = none := by
  cases h <;> exact ⟨rfl, rfl⟩

end

/-! ## Changes inside -/

/-- What is expected of the child of a node, if anything is expected of the node. -/
def Expected.child? (schema : Schema ν) (expected? : Option (Expected ν)) (node : Node)
    (segment : Segment) : Option (Expected ν) :=
  expected?.bind fun expected => (expected.demand schema).inside? node segment

/-- The change is made in the node itself or in one child, or in one child of a child and so on.
It may depend on what is expected where it is made. -/
inductive ChangedInside (schema : Schema ν)
    (change : Option (Expected ν) → Node → Node → Prop) :
    Option (Expected ν) → Node → Node → Prop where
  | here {expected? : Option (Expected ν)} {node node' : Node} (h : change expected? node node') :
      ChangedInside schema change expected? node node'
  | inside {expected? : Option (Expected ν)} {node node' child child' : Node} {segment : Segment}
      (hreplaced : ChildReplaced child child' segment node node')
      (hchild : ChangedInside schema change (Expected.child? schema expected? node segment)
        child child') :
      ChangedInside schema change expected? node node'

/-- There is a child to be replaced wherever a segment leads to one. -/
theorem exists_childReplaced {node child : Node} {segment : Segment}
    (h : node.child? segment = some child) (child' : Node) :
    ∃ node', ChildReplaced child child' segment node node' ∧
      node'.child? segment = some child' := by
  cases node with
  | scalar v => cases h
  | list items =>
    cases segment with
    | key name => cases h
    | index position =>
      obtain ⟨hlt, rfl⟩ := List.getElem?_eq_some_iff.1 h
      have hitems :
          items.take position ++ items[position] :: items.drop (position + 1) = items := by
        rw [← List.drop_eq_getElem_cons hlt, List.take_append_drop]
      have hposition : (items.take position).length = position :=
        List.length_take_of_le (Nat.le_of_lt hlt)
      have hreplaced := @ChildReplaced.item items[position] child'
        (items.take position) (items.drop (position + 1))
      rw [hitems, hposition] at hreplaced
      refine ⟨_, hreplaced, ?_⟩
      show (items.take position ++ child' :: items.drop (position + 1))[position]? = some child'
      rw [List.getElem?_append_right (Nat.le_of_eq hposition), hposition, Nat.sub_self]
      rfl
  | map entries =>
    cases segment with
    | index position => cases h
    | key name =>
      obtain ⟨before, after, rfl, hbefore⟩ := List.lookup_eq_some_iff.1 h
      exact ⟨_, .entry name before after, List.lookup_eq_some_iff.2 ⟨before, after, rfl, hbefore⟩⟩

/-- What may be changed where it stands alone may be changed at any place that leads to it. -/
theorem exists_changedInside {change : Option (Expected ν) → Node → Node → Prop}
    {expected found : Expected ν} {node inner inner' : Node} {place : Path}
    (hat : expected.at? schema node place = some found) (hfollow : node.follow? place = some inner)
    (h : change (some found) inner inner') :
    ∃ node', ChangedInside schema change (some expected) node node' ∧
      node'.follow? place = some inner' := by
  induction place generalizing expected node with
  | nil =>
    obtain rfl := Option.some.inj hat
    obtain rfl := Option.some.inj hfollow
    exact ⟨inner', .here h, rfl⟩
  | cons segment rest ih =>
    obtain ⟨next, hinside, hat⟩ := Option.bind_eq_some_iff.1 hat
    obtain ⟨child, hchild, hat⟩ := Option.bind_eq_some_iff.1 hat
    rw [Node.follow?, hchild] at hfollow
    obtain ⟨child', hchanged, hfollow'⟩ := ih hat hfollow
    obtain ⟨node', hreplaced, hchild'⟩ := exists_childReplaced hchild child'
    refine ⟨node', .inside hreplaced ?_, ?_⟩
    · rw [Expected.child?, Option.bind_some, hinside]
      exact hchanged
    · rw [Node.follow?, hchild']
      exact hfollow'

/-- If the nodes are read in the same way before and after a change, then so are the structures in
which it is made. -/
theorem readAlike_of_changedInside {change : Option (Expected ν) → Node → Node → Prop}
    (hchange : ∀ {expected? node node'}, (∀ expected, expected? = some expected →
      (expected.demand schema).Typed schema) → change expected? node node' →
        ReadAlike schema expected? node node')
    {expected? : Option (Expected ν)} (hexpected : ∀ expected, expected? = some expected →
      (expected.demand schema).Typed schema) {node node' : Node}
    (h : ChangedInside schema change expected? node node') :
    ReadAlike schema expected? node node' := by
  induction h with
  | here h => exact hchange hexpected h
  | @inside expected? node node' child child' segment hreplaced _ ih =>
    obtain ⟨hnode, hnode'⟩ := hreplaced.value?_eq_none
    have hchild : ∀ inner, Expected.child? schema expected? node segment = some inner →
        (inner.demand schema).Typed schema := by
      intro inner hinner
      obtain ⟨expected, hsome, hinside⟩ := Option.bind_eq_some_iff.1 hinner
      exact (hexpected expected hsome).inside hinside
    refine readAlike_of_readNode hnode hnode' fun expected hsome path => ?_
    have halike := ih hchild
    rw [Expected.child?, hsome, Option.bind_some] at halike
    exact sameSuccess_readNode (hexpected expected hsome).ne_node hreplaced halike

end Placeholder
