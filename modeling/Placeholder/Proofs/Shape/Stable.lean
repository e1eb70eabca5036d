import Placeholder.Proofs.Shape.Reread

/-!
# Reading is stable

The data that a node is read as comes from the data of its children, or is a default, or absent.  So
if whatever the children are read as is read again, then so is whatever the node is read as, and by
induction this holds of every structure (`stable`).  Its keys must be different, since else the
order of the entries with the same key would change, and its doubles finite, since JSON has no
others.

Main statement, for the shapes of the catalog: `Catalog.extract_ofJson_toJson`.
-/

namespace Placeholder

variable {ν : Type} {schema : Schema ν}

/-! ## Data of a node -/

section

variable {demand : Demand ν} {path : Path} {node : Node} {datum : Datum}

/-- Only null is read as something that is written as null.  Absent data is not of a node but of a
child that takes null for the lack of a datum. -/
theorem eq_null_of_written_eq_null (h : readNode schema demand path node = .ok datum)
    (hagain : Rereads schema (.payload demand) datum) (hnull : datum.written = .scalar .null) :
    node = .scalar .null := by
  have hread : readNode schema demand [] (.scalar .null) = .ok datum := hnull ▸ hagain []
  cases demand with
  | value =>
    rw [readNode_value_scalar] at hread
    obtain rfl := Except.ok.inj hread
    cases node with
    | scalar v =>
      rw [readNode_value_scalar] at h
      exact congrArg Node.scalar (Datum.value.inj (Except.ok.inj h))
    | list | map =>
      rw [readNode_value_of_value?_eq_none _ _ rfl] at h
      cases h
  | node =>
    rw [readNode_node] at h hread
    obtain rfl := Except.ok.inj hread
    exact Datum.node.inj (Except.ok.inj h)
  | unit title =>
    cases node with
    | scalar v =>
      cases v with
      | null => rfl
      | string | integer | float | boolean =>
        simp only [readNode] at h
        cases h
    | list | map =>
      simp only [readNode] at h
      cases h
  | _ =>
    simp only [readNode] at hread
    cases hread

/-- Whatever the node is read as, of a type of data, is read again. -/
def Stable (schema : Schema ν) (node : Node) : Prop :=
  ∀ expected path datum, expected.OfData schema → expected.readAt schema path node = .ok datum →
    Rereads schema expected datum

/-- It is enough to look at what is asked of the node itself. -/
theorem stable_of_readNode
    (hschema : ∀ name, (Demand.ofDeclaration (schema name)).OfData schema)
    (h : ∀ demand path datum, demand.OfData schema → readNode schema demand path node = .ok datum →
      Rereads schema (.payload demand) datum) : Stable schema node := by
  intro expected path datum hexpected hread
  cases expected with
  | payload demand => exact h demand path datum hexpected hread
  | shape shape =>
    have hdemand := Demand.ofData_ofShape hschema hexpected
    have hread : shape.finish node (readNode schema (Demand.ofShape schema shape) path node) =
        .ok datum := hread
    cases hnull : shape.ofNull? with
    | none =>
      rw [Shape.finish_of_ofNull?_eq_none hnull] at hread
      obtain ⟨inner, hinner, rfl⟩ := map_eq_ok_iff.1 hread
      exact rereads_wrap (h _ _ _ hdemand hinner) (.inl hnull)
    | some standing =>
      -- What comes from another node than null must not be written as null, which stands for the
      -- lack of a datum.
      by_cases hnode : node = .scalar .null
      · subst hnode
        unfold Shape.finish at hread
        rw [hnull] at hread
        obtain rfl := Except.ok.inj hread
        exact rereads_of_ofNull? hnull
      · rw [Shape.finish_of_ne_null shape hnode] at hread
        obtain ⟨inner, hinner, rfl⟩ := map_eq_ok_iff.1 hread
        have hagain := h _ _ _ hdemand hinner
        exact rereads_wrap hagain (.inr fun hwritten =>
          hnode (eq_null_of_written_eq_null hinner hagain hwritten))

end

/-! ### Scalars -/

theorem isFinite_ofInt_toInt (i : Int64) : (Binary64.ofInt i.toInt).isFinite = true := by
  have hmin : Int64.minValue.toInt = -9223372036854775808 := rfl
  have hmax : Int64.maxValue.toInt = 9223372036854775807 := rfl
  have hbits : Nat.pow 2 64 = 18446744073709551616 := rfl
  have hrange := And.intro i.minValue_le_toInt i.toInt_le
  exact Binary64.isFinite_ofInt (k := 64) (by decide) (by omega)

/-- A scalar that is read is written as it is, unless it is an integer that is read as a double. -/
theorem exists_written_of_readScalar {demand : Demand ν} {v : Value} {datum : Datum}
    (hfinite : v.isFinite = true) (h : readScalar demand v = .ok datum) :
    ∃ w, datum.written = .scalar w ∧ readScalar demand w = .ok datum := by
  unfold readScalar at h
  split at h
  · next s =>
    obtain rfl := Except.ok.inj h
    exact ⟨.string s, rfl, rfl⟩
  · next b =>
    obtain rfl := Except.ok.inj h
    exact ⟨.boolean b, rfl, rfl⟩
  · next s =>
    split at h
    · next c hc =>
      obtain rfl := Except.ok.inj h
      refine ⟨.string (String.ofList [c]), rfl, ?_⟩
      rw [readScalar, String.toList_ofList]
    · cases h
  · obtain rfl := Except.ok.inj h
    exact ⟨.null, rfl, rfl⟩
  · next type i =>
    split at h
    · next hcontains =>
      obtain rfl := Except.ok.inj h
      exact ⟨.integer i, Datum.written_integer i, if_pos hcontains⟩
    · cases h
  · next x =>
    obtain rfl := Except.ok.inj h
    exact ⟨.float x, Datum.written_float hfinite, rfl⟩
  · next i =>
    obtain rfl := Except.ok.inj h
    exact ⟨_, Datum.written_float (isFinite_ofInt_toInt i), rfl⟩
  · next variants s =>
    obtain ⟨variant, hfound, hbare⟩ := bind_eq_ok_iff.1 h
    have hname := Variant.name_of_find? (find?_of_findVariant hfound)
    by_cases hdata : variant.payload = .none
    · rw [bareVariant_eq_ok hdata, hname] at hbare
      obtain rfl := Except.ok.inj hbare
      exact ⟨.string s, rfl, h⟩
    · obtain ⟨cause, hcause⟩ := exists_bareVariant_error hdata
      rw [hcause] at hbare
      cases hbare
  · cases h
  · cases h

section

variable {path : Path} {node : Node} {datum : Datum}

theorem rereads_of_readScalar {demand : Demand ν} {v : Value}
    (hread : ∀ path v, readNode schema demand path (.scalar v) =
      reported path (unreported (readScalar demand v)))
    (hfinite : v.isFinite = true) (h : readNode schema demand path (.scalar v) = .ok datum) :
    Rereads schema (.payload demand) datum := by
  intro other
  rw [hread, reported_eq_ok_iff, unreported_eq_ok_iff] at h
  obtain ⟨w, hwritten, hagain⟩ := exists_written_of_readScalar hfinite h
  show readNode schema demand other datum.written = _
  rw [hwritten, hread, hagain]
  rfl

theorem rereads_of_readNode_node (hfinite : node.allFinite = true)
    (h : readNode schema .node path node = .ok datum) : Rereads schema (.payload .node) datum := by
  rw [readNode_node] at h
  obtain rfl := Except.ok.inj h
  exact rereads_node hfinite

theorem rereads_of_readNode_choice {title : String} {variants : List (Variant ν)}
    (hvariants : ∀ variant ∈ variants, variant.payload.OfData schema)
    (hchild : ∀ tag child, node = .map [(tag, child)] → Stable schema child)
    (h : readNode schema (.choice title variants) path node = .ok datum) :
    Rereads schema (.payload (.choice title variants)) datum := by
  obtain ⟨tag, hbare⟩ | ⟨tag, expected, child, hdata⟩ | ⟨cause, hcause⟩ :=
    choice_cases title variants node
  · rw [readNode_of_namesBare hbare] at h
    obtain rfl := Except.ok.inj h
    obtain ⟨variant, hfound, hpayload⟩ := hbare.1
    exact rereads_choice hfound hpayload
  · rw [readNode_of_namesData hdata, reported_eq_ok_iff] at h
    obtain ⟨payload, hread, rfl⟩ := map_eq_ok_iff.1 h
    obtain ⟨⟨variant, hfound, hexpected⟩, hnode⟩ := hdata
    have hofData := Payload.ofData_of_expected?
      (hvariants variant (List.mem_of_find?_eq_some hfound)) hexpected
    exact rereads_tagged hfound hexpected (hchild tag child hnode _ _ _ hofData hread)
  · rw [readNode_of_unchoosable hcause] at h
    cases h

end

/-! ### Children -/

section

variable {path : Path} {position : Nat}

theorem Stable.rereads {node : Node} (h : Stable schema node) {shape : Shape ν}
    (hshape : shape.isData = true) {datum : Datum} (hread : ReadSomewhere schema shape node datum) :
    Rereads schema (.shape shape) datum := by
  obtain ⟨path, hread⟩ := hread
  exact h (.shape shape) path datum hshape hread

section

variable {items : List Node} {data : List Datum} (hitems : ∀ item ∈ items, Stable schema item)

include hitems

theorem rereads_of_readAll {inner : Shape ν} (hinner : inner.isData = true)
    (h : readAll schema inner path position items = .ok data) :
    ∀ datum ∈ data, Rereads schema (.shape inner) datum := by
  intro datum hdatum
  obtain ⟨item, hitem, hread⟩ := exists_of_mem_forall₂ (forall₂_of_readAll h) hdatum
  exact (hitems item hitem).rereads hinner hread

theorem rereads_of_readSeries {counted : String} {fields : List (Field ν)}
    (hshapes : ∀ field ∈ fields, field.shape.isData = true)
    (hdefaults : ∀ field ∈ fields, ∀ datum, field.default? = some datum →
      Rereads schema (.shape field.shape) datum)
    (h : readSeries schema counted fields path position items = .ok data) :
    List.Forall₂ (fun field datum => Rereads schema (.shape field.shape) datum) fields data := by
  have hfields := (List.forall₂_and_left fields data).2
    ⟨fun _ hmem => hmem, forall₂_of_readSeries h⟩
  refine hfields.imp ?_
  rintro field datum ⟨hmem, ⟨item, hitem, hread⟩ | hdefault⟩
  · exact (hitems item hitem).rereads (hshapes field hmem) hread
  · exact hdefaults field hmem datum hdefault

end

section

variable {entries : List (String × Node)} {found : List (String × Datum)}
  (hentries : ∀ entry ∈ entries, Stable schema entry.2)

include hentries

theorem rereads_of_readFields {fields : List (Field ν)} {closed : Bool}
    (hfields : FieldsOfData schema fields)
    (h : readFields schema fields closed path entries = .ok found) {datum : Datum}
    (hdatum : assemble fields found = .ok datum) :
    ∃ data, datum = .record ((fields.map (·.name)).zip data) ∧
      List.Forall₂ (fun field datum => Rereads schema (.shape field.shape) datum) fields data := by
  obtain ⟨data, hdata, rfl⟩ := assemble_eq_ok_iff.1 hdatum
  refine ⟨data, rfl, ((List.forall₂_and_left fields data).2 ⟨fun _ hmem => hmem, hdata⟩).imp ?_⟩
  rintro field datum ⟨hmem, hfield⟩
  -- The datum is what was found under the name, or the default, or absent.
  unfold fieldDatum at hfield
  split at hfield
  · next hlookup =>
    obtain rfl := Except.ok.inj hfield
    obtain ⟨entry, hentry, hname, other, hother, hread⟩ :=
      exists_of_mem_forall₂ (forall₂_of_readFields h) (Entries.mem_of_get? hlookup)
    obtain rfl : other = field := by
      rw [← hname, find?_name_eq hfields.nodup hmem] at hother
      exact (Option.some.inj hother).symm
    exact (hentries entry (List.mem_filter.1 hentry).1).rereads (hfields.isData other hmem) hread
  · next hdefault =>
    obtain rfl := Except.ok.inj hfield
    exact hfields.rereads_default field hmem _ hdefault
  · next hshape =>
    obtain rfl := Except.ok.inj hfield
    rw [hshape]
    exact rereads_of_ofNull? rfl
  · cases hfield

theorem rereads_of_readEntries {key : KeyShape ν} {inner : Shape ν} (hinner : inner.isData = true)
    (hkeys : Entries.Distinct entries)
    (h : readEntries schema key inner path entries = .ok found) :
    Rereads schema (.payload (.map key inner))
      (.map (sortEntries (keyBefore schema key) found)) := by
  have hread := forall₂_of_readEntries h
  have hdata : ∀ pair ∈ found, readKey schema key pair.1 = .ok pair.1 ∧
      Rereads schema (.shape inner) pair.2 := by
    intro pair hpair
    obtain ⟨entry, hentry, hname, hkey, hdatum⟩ := exists_of_mem_forall₂ hread hpair
    rw [hname]
    exact ⟨hkey, (hentries entry hentry).rereads hinner hdatum⟩
  -- Two entries with one key would be swapped each time that they are put in order.
  have hpairs := pairwise_of_readEntries hkeys h
  have hsorted : InOrder (keyBefore schema key) (sortEntries (keyBefore schema key) found) := by
    apply pairwise_sortEntries _ hpairs
    exact fun _ _ _ => keyBefore_trans
  exact rereads_map hsorted fun pair hpair => hdata pair (mem_sortEntries.1 hpair)

end

end

/-! ### Nodes -/

section

variable (hschema : ∀ name, (Demand.ofDeclaration (schema name)).OfData schema)

include hschema

theorem stable_scalar {v : Value} (hfinite : (Node.scalar v).allFinite = true) :
    Stable schema (.scalar v) := by
  apply stable_of_readNode hschema
  intro demand path datum hdemand h
  cases demand with
  | value =>
    rw [readNode_value_scalar] at h
    obtain rfl := Except.ok.inj h
    exact rereads_value hfinite
  | node => exact rereads_of_readNode_node hfinite h
  | _ => exact rereads_of_readScalar (fun path v => by simp only [readNode]) hfinite h

theorem stable_list {items : List Node} (hfinite : (Node.list items).allFinite = true)
    (hitems : ∀ item ∈ items, Stable schema item) : Stable schema (.list items) := by
  apply stable_of_readNode hschema
  intro demand path datum hdemand h
  cases demand with
  | value =>
    rw [readNode_value_of_value?_eq_none _ _ rfl] at h
    cases h
  | node => exact rereads_of_readNode_node hfinite h
  | list inner =>
    simp only [readNode, reported_eq_ok_iff] at h
    obtain ⟨data, hdata, rfl⟩ := map_eq_ok_iff.1 h
    exact rereads_list (rereads_of_readAll hitems hdemand hdata)
  | series title counted shapes =>
    simp only [readNode, reported_eq_ok_iff] at h
    obtain ⟨data, hdata, rfl⟩ := map_eq_ok_iff.1 h
    have hshapes : ∀ field ∈ seriesFields shapes, field.shape.isData = true := by
      intro field hmem
      obtain ⟨shape, hshape, rfl⟩ := List.mem_map.1 hmem
      exact hdemand shape hshape
    have hdefaults : ∀ field ∈ seriesFields shapes, ∀ datum, field.default? = some datum →
        Rereads schema (.shape field.shape) datum := by
      intro field hmem datum hdefault
      obtain ⟨shape, -, rfl⟩ := List.mem_map.1 hmem
      cases hdefault
    have hread := rereads_of_readSeries hitems hshapes hdefaults hdata
    rw [seriesFields, List.forall₂_map_left_iff] at hread
    exact rereads_series hread
  | record title fields closed =>
    simp only [readNode, reported_eq_ok_iff] at h
    obtain ⟨data, hdata, rfl⟩ := map_eq_ok_iff.1 h
    exact rereads_record hdemand.nodup
      (rereads_of_readSeries hitems hdemand.isData hdemand.rereads_default hdata)
  | path =>
    simp only [readNode, reported_eq_ok_iff] at h
    obtain ⟨data, hdata, rfl⟩ := map_eq_ok_iff.1 h
    intro other
    show readNode schema .path other (Datum.path data).written = _
    rw [Datum.written_of_ofUntyped (unreported_eq_ok_iff.1 hdata)]
    simp only [readNode, reported_eq_ok_iff, map_eq_ok_iff]
    exact ⟨data, hdata, rfl⟩
  | valueFirst | sizes => cases hdemand
  | string | boolean | character | unit | integer | float | map | choice =>
    simp only [readNode] at h
    cases h

theorem stable_map {entries : List (String × Node)} (hfinite : (Node.map entries).allFinite = true)
    (hkeys : Entries.Distinct entries) (hentries : ∀ entry ∈ entries, Stable schema entry.2) :
    Stable schema (.map entries) := by
  apply stable_of_readNode hschema
  intro demand path datum hdemand h
  cases demand with
  | value =>
    rw [readNode_value_of_value?_eq_none _ _ rfl] at h
    cases h
  | node => exact rereads_of_readNode_node hfinite h
  | record title fields closed =>
    simp only [readNode, reported_eq_ok_iff] at h
    obtain ⟨found, hfound, h⟩ := bind_eq_ok_iff.1 h
    obtain ⟨data, rfl, hdata⟩ :=
      rereads_of_readFields hentries hdemand hfound (unreported_eq_ok_iff.1 h)
    exact rereads_record hdemand.nodup hdata
  | map key inner =>
    simp only [readNode, reported_eq_ok_iff] at h
    obtain ⟨found, hfound, rfl⟩ := map_eq_ok_iff.1 h
    exact rereads_of_readEntries hentries hdemand hkeys hfound
  | choice title variants =>
    refine rereads_of_readNode_choice hdemand (fun tag child hnode => ?_) h
    obtain rfl := Node.map.inj hnode
    exact hentries (tag, child) List.mem_cons_self
  | valueFirst | sizes => cases hdemand
  | string | boolean | character | unit | integer | float | list | series | path =>
    simp only [readNode] at h
    cases h

/-- Whatever a structure is read as, of a type of data, is read again from what it is written as. -/
theorem stable {node : Node} (hnode : node.Distinct) (hfinite : node.allFinite = true) :
    Stable schema node := by
  cases node with
  | scalar v => exact stable_scalar hschema hfinite
  | list items =>
    refine stable_list hschema hfinite fun item hmem => ?_
    have hsmaller : sizeOf item < sizeOf (Node.list items) := Node.sizeOf_lt_of_mem_items hmem
    exact stable (Node.distinct_of_mem_items hnode hmem) (Node.allFinite_of_mem_items hfinite hmem)
  | map entries =>
    refine stable_map hschema hfinite hnode.1 fun (key, child) hmem => ?_
    have hsmaller : sizeOf child < sizeOf (Node.map entries) :=
      Node.sizeOf_lt_of_mem_entries hmem
    exact stable (Node.distinct_of_mem_entries hnode.2 hmem)
      (Node.allFinite_of_mem_entries hfinite hmem)
termination_by sizeOf node

end

/-! ## The catalog -/

/-- Fields of data without defaults. -/
theorem fieldsOfData_of_isNone {fields : List (Field ν)} (hnames : (fields.map (·.name)).Nodup)
    (hdata : ∀ field ∈ fields, field.shape.isData = true)
    (hnone : ∀ field ∈ fields, field.default?.isNone = true) : FieldsOfData schema fields := by
  refine ⟨hnames, hdata, fun field hmem datum hdefault => ?_⟩
  have hfield := hnone field hmem
  rw [hdefault] at hfield
  cases hfield

namespace Catalog

/-- All declared types are types of data. -/
theorem ofData_schema (name : Name) :
    (Demand.ofDeclaration (Catalog.schema name)).OfData Catalog.schema := by
  cases name with
  | customer | order | webhook =>
    apply fieldsOfData_of_isNone
    all_goals decide
  | color =>
    simp only [Catalog.schema, Demand.ofDeclaration, Demand.OfData, List.forall_mem_cons]
    exact ⟨trivial, trivial, trivial, nofun⟩
  | channel =>
    simp only [Catalog.schema, Demand.ofDeclaration, Demand.OfData, List.forall_mem_cons]
    refine ⟨trivial, rfl, fieldsOfData_of_isNone ?_ ?_ ?_, ?_, nofun⟩
    · decide
    · decide
    · decide
    · show ∀ shape ∈ _, _
      decide
  | point =>
    show ∀ shape ∈ _, _
    decide
  | marker => trivial
  | strict =>
    refine ⟨by decide, by decide, ?_⟩
    simp only [List.forall_mem_cons, List.not_mem_nil]
    refine ⟨nofun, ?_, nofun⟩
    rintro datum ⟨⟩
    exact fun path => rfl
  | tree =>
    refine ⟨by decide, by decide, ?_⟩
    simp only [List.forall_mem_cons, List.not_mem_nil]
    refine ⟨nofun, ?_, nofun⟩
    rintro datum ⟨⟩
    exact rereads_wrap (rereads_list nofun) (.inl rfl)

/-- All shapes but three are of data. -/
theorem isData_of_shape? {name : String} {shape : Shape Name} (hshape : shape? name = some shape)
    (hname : name ∉ ["hint", "vec_hint", "value_first"]) : shape.isData = true := by
  have hall : ∀ pair ∈ shapes, pair.1 ∉ ["hint", "vec_hint", "value_first"] →
      pair.2.isData = true := by
    decide
  exact hall (name, shape) (Entries.mem_of_get? hshape) hname

/-- A shape of the catalog, but for the three that only tell how they are read.  Whatever it gives
for a structure without repeated keys and with finite doubles only, it gives again for the structure
that the JSON of this datum is. -/
theorem extract_ofJson_toJson {name : String} {shape : Shape Name}
    (hshape : shape? name = some shape)
    (hname : name ∉ ["hint", "vec_hint", "value_first"]) {node : Node} (hnode : node.Distinct)
    (hfinite : node.allFinite = true) {datum : Datum}
    (h : node.extract Catalog.schema shape = .ok datum) :
    (Node.ofJson datum.toJson).extract Catalog.schema shape = .ok datum :=
  stable ofData_schema hnode hfinite (.shape shape) [] datum (isData_of_shape? hshape hname) h []

/-- A list of channels, one of which has null for the data that it does not have, and one a list for
a record.  The first is written as its name alone, and the second with the names of the fields. -/
theorem extract_ofJson_toJson_channels :
    let node : Node := .list [.map [("Email", .scalar .null)],
      .map [("Push", .list [.scalar (.string "t"), .scalar (.integer 2)])]]
    let datum : Datum := .series [.choice "Email",
      .tagged "Push" (.record [("token", .string "t"), ("badge", .integer 2)])]
    node.extract Catalog.schema (.list (.declared .channel)) = .ok datum ∧
      Node.ofJson datum.toJson = .list [.scalar (.string "Email"),
        .map [("Push", .map [("token", .scalar (.string "t")), ("badge", .scalar (.integer 2))])]] ∧
      (Node.ofJson datum.toJson).extract Catalog.schema (.list (.declared .channel)) =
        .ok datum := by
  intro node datum
  have hshape : Catalog.shape? "vec_channel" = some (.list (.declared .channel)) := by
    rfl
  have hnode : node.Distinct := by
    decide
  have hread : node.extract Catalog.schema (.list (.declared .channel)) = .ok datum := by
    rfl
  exact ⟨hread, by rfl, extract_ofJson_toJson hshape (by decide) hnode (by rfl) hread⟩

end Catalog

end Placeholder
