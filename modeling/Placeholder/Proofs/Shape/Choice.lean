import Placeholder.Proofs.Shape.Location
import Placeholder.Proofs.Shape.Walks

/-!
# Choices

A choice is written as the name of a variant, or as a map with the name of a variant as its only
key and the data of the variant under it.  Every node is one of three things (`choice_cases`): it
names a variant without data, it names a variant and has a node for its data, or it has not the form
of any variant, for one of the reasons in `Unchoosable`.

In the first case the datum is the variant, and in the third the node reports the reason itself.  In
the second everything depends on the data, and what fails there fails under the name of the variant.
The data may be a record, and a record may be given as the list of its fields
(`readNode_fields_iff`).

Main statement: `readChoice_exact`.
-/

namespace Placeholder

variable {ν : Type}

/-! ## The form of a choice -/

/-- Why a node has not the form of any of the variants, whatever the data of a variant may be. -/
inductive Unchoosable (variants : List (Variant ν)) : Node → Fault → Prop where
  | scalar {v : Value} (h : v.isString = false) : Unchoosable variants (.scalar v)
      (.noVariant v.typeName)
  | list {items : List Node} : Unchoosable variants (.list items) (.noVariant "list")
  /-- No key, or more than one. -/
  | keys {entries : List (String × Node)} (h : entries.length ≠ 1) :
      Unchoosable variants (.map entries)
        (.noVariant ("map with " ++ toString entries.length ++ " keys"))
  | unknownText {text : String} (h : variants.find? (·.name = text) = none) :
      Unchoosable variants (.scalar (.string text))
        (.unknownVariant text (variants.map (·.name)))
  | unknownKey {tag : String} {child : Node} (h : variants.find? (·.name = tag) = none) :
      Unchoosable variants (.map [(tag, child)]) (.unknownVariant tag (variants.map (·.name)))
  /-- The variant has data, and only its name is given. -/
  | withoutData {text : String} {variant : Variant ν} {cause : Fault}
      (h : variants.find? (·.name = text) = some variant)
      (hdata : bareVariant variant = .error cause) :
      Unchoosable variants (.scalar (.string text)) cause
  /-- The variant has no data, and some is given. -/
  | withData {tag : String} {child : Node} {variant : Variant ν}
      (h : variants.find? (·.name = tag) = some variant) (hdata : variant.payload = .none)
      (hchild : child ≠ .scalar .null) :
      Unchoosable variants (.map [(tag, child)]) (.unitVariantData tag child.kindName)

/-- The node names the variant, which has no data: by a text, or as a key of null. -/
def NamesBare (variants : List (Variant ν)) (tag : String) (node : Node) : Prop :=
  (∃ variant, variants.find? (·.name = tag) = some variant ∧ variant.payload = .none) ∧
    (node = .scalar (.string tag) ∨ node = .map [(tag, .scalar .null)])

/-- The node names the variant as its only key, and the node under it is its data, which is expected
to be something. -/
def NamesData (title : String) (variants : List (Variant ν)) (tag : String) (expected : Expected ν)
    (child node : Node) : Prop :=
  (∃ variant, variants.find? (·.name = tag) = some variant ∧
    variant.payload.expected? title tag = some expected) ∧ node = .map [(tag, child)]

theorem Payload.expected?_eq_none_iff {payload : Payload ν} {title tag : String} :
    payload.expected? title tag = Option.none ↔ payload = .none := by
  cases payload <;> simp [expected?]

/-- A text that names a variant with data. -/
theorem exists_bareVariant_error {variant : Variant ν} (h : variant.payload ≠ .none) :
    ∃ cause, bareVariant variant = .error cause := by
  unfold bareVariant
  split
  · next hnone => exact absurd hnone h
  · exact ⟨_, rfl⟩
  · exact ⟨_, rfl⟩
  · exact ⟨_, rfl⟩

theorem bareVariant_eq_ok {variant : Variant ν} (h : variant.payload = .none) :
    bareVariant variant = .ok (.choice variant.name) := by
  rw [bareVariant, h]

theorem Variant.name_of_find? {variants : List (Variant ν)} {tag : String} {variant : Variant ν}
    (h : variants.find? (·.name = tag) = some variant) : variant.name = tag :=
  of_decide_eq_true (List.find?_some (p := fun variant : Variant ν => variant.name = tag) h)

/-- Every node names a variant without data, or one with a node for its data, or has not the form of
a variant. -/
theorem choice_cases (title : String) (variants : List (Variant ν)) (node : Node) :
    (∃ tag, NamesBare variants tag node) ∨
      (∃ tag expected child, NamesData title variants tag expected child node) ∨
      ∃ cause, Unchoosable variants node cause := by
  cases node with
  | list items => exact .inr (.inr ⟨_, .list⟩)
  | scalar v =>
    cases v with
    | string text =>
      cases hfound : variants.find? (·.name = text) with
      | none => exact .inr (.inr ⟨_, .unknownText hfound⟩)
      | some variant =>
        by_cases hdata : variant.payload = .none
        · exact .inl ⟨text, ⟨variant, hfound, hdata⟩, .inl rfl⟩
        · obtain ⟨cause, hcause⟩ := exists_bareVariant_error hdata
          exact .inr (.inr ⟨cause, .withoutData hfound hcause⟩)
    | integer | float | boolean | null => exact .inr (.inr ⟨_, .scalar rfl⟩)
  | map entries =>
    match entries with
    | [] => exact .inr (.inr ⟨_, .keys (by simp)⟩)
    | _ :: _ :: _ => exact .inr (.inr ⟨_, .keys (by simp)⟩)
    | [(tag, child)] =>
      cases hfound : variants.find? (·.name = tag) with
      | none => exact .inr (.inr ⟨_, .unknownKey hfound⟩)
      | some variant =>
        cases hexpected : variant.payload.expected? title tag with
        | some expected =>
          exact .inr (.inl ⟨tag, expected, child, ⟨variant, hfound, hexpected⟩, rfl⟩)
        | none =>
          have hdata := Payload.expected?_eq_none_iff.1 hexpected
          by_cases hchild : child = .scalar .null
          · exact .inl ⟨tag, ⟨variant, hfound, hdata⟩, .inr (by rw [hchild])⟩
          · exact .inr (.inr ⟨_, .withData hfound hdata hchild⟩)

/-! ## Reading a choice -/

section

variable {schema : Schema ν} {title : String} {variants : List (Variant ν)} {node : Node}

/-- What a node says itself, it reports at its own path. -/
theorem reported_unreported_error (path : Path) (cause : Fault) {α : Type} :
    reported path (unreported (.error cause : Except Fault α)) =
      .error { fault := cause, path } := rfl

theorem readNode_choice_scalar (path : Path) (v : Value) :
    readNode schema (.choice title variants) path (.scalar v) =
      reported path (unreported (readScalar (.choice title variants) v)) := by
  simp only [readNode]

theorem readNode_of_namesBare {tag : String} (h : NamesBare variants tag node) (path : Path) :
    readNode schema (.choice title variants) path node = .ok (.choice tag) := by
  obtain ⟨⟨variant, hfound, hdata⟩, rfl | rfl⟩ := h
  · have hread : readScalar (.choice title variants) (.string tag) = .ok (.choice tag) := by
      rw [readScalar, findVariant, hfound]
      change bareVariant variant = _
      rw [bareVariant_eq_ok hdata, Variant.name_of_find? hfound]
    rw [readNode_choice_scalar, hread]
    rfl
  · rw [readNode_bare hfound _ (Payload.expected?_eq_none_iff.2 hdata)]
    rfl

theorem readNode_of_namesData {tag : String} {expected : Expected ν} {child : Node}
    (h : NamesData title variants tag expected child node) (path : Path) :
    readNode schema (.choice title variants) path node =
      reported path
        ((expected.readAt schema (path.child (.key tag)) child).map (.tagged tag)) := by
  obtain ⟨⟨variant, hfound, hexpected⟩, rfl⟩ := h
  exact readNode_tagged hfound child hexpected path

theorem readNode_of_unchoosable {cause : Fault} (h : Unchoosable variants node cause)
    (path : Path) :
    readNode schema (.choice title variants) path node = .error { fault := cause, path } := by
  cases h with
  | @scalar v h =>
    rw [readNode_choice_scalar]
    cases v with
    | string => cases h
    | integer | float | boolean | null => rfl
  | list =>
    simp only [readNode]
    rfl
  | @keys entries h =>
    rcases entries with _ | ⟨first, _ | ⟨second, rest⟩⟩
    · simp only [readNode]
      rfl
    · exact absurd rfl h
    · simp only [readNode]
      rfl
  | unknownText h =>
    rw [readNode_choice_scalar, readScalar, findVariant, h]
    rfl
  | unknownKey h =>
    simp only [readNode, findVariant, h]
    rfl
  | withoutData h hdata =>
    rw [readNode_choice_scalar, readScalar, findVariant, h]
    change reported path (unreported (bareVariant _)) = _
    rw [hdata, reported_unreported_error]
  | @withData tag child variant h hdata hchild =>
    rw [readNode_bare h child (Payload.expected?_eq_none_iff.2 hdata)]
    split
    · exact absurd rfl hchild
    · rfl

end

/-! ## Labelled types -/

section

variable {schema : Schema ν} (hschema : ∀ name, (schema name).labelled = true)

include hschema

theorem Expected.readAt_eq {expected : Expected ν} (hexpected : expected.labelled = true)
    (path : Path) (node : Node) :
    expected.readAt schema path node =
      (expected.readAt schema [] node).mapError (·.under path) :=
  Expected.readAt_under
    (readNode_under hschema (Expected.labelled_demand hschema hexpected) node path)

/-- What is read at some path is read at every path. -/
theorem readAnywhere_of_readSomewhere {shape : Shape ν} (hshape : shape.labelled = true)
    {node : Node} {datum : Datum} (h : ReadSomewhere schema shape node datum) :
    ReadAnywhere schema shape node datum := by
  obtain ⟨path, hread⟩ := h
  have hexpected : (Expected.shape shape).labelled = true := hshape
  have halone : node.extractAt schema shape path = _ :=
    Expected.readAt_eq hschema hexpected path node
  rw [halone, mapError_eq_ok_iff] at hread
  intro other
  have hother : node.extractAt schema shape other = _ :=
    Expected.readAt_eq hschema hexpected other node
  rw [hother, mapError_eq_ok_iff]
  exact hread

/-- A record is read from the list of its fields as it is from the map with their names. -/
theorem readNode_fields_iff {title : String} {fields : List (Field ν)} {closed : Bool}
    (hfields : fields.all (·.shape.labelled) = true) (hnames : (fields.map (·.name)).Nodup)
    {items : List Node} (hlength : fields.length = items.length) (path : Path) (datum : Datum) :
    readNode schema (.record title fields closed) path (.list items) = .ok datum ↔
      readNode schema (.record title fields closed) path
        (.map ((fields.map (·.name)).zip items)) = .ok datum := by
  have hanywhere : ∀ {data : List Datum},
      List.Forall₂ (FieldRead schema) (fields.zip items) data →
        List.Forall₂ (fun part datum => ReadAnywhere schema part.1.shape part.2 datum)
          (fields.zip items) data := by
    intro data h
    have hlabelled : ∀ part ∈ fields.zip items, part.1.shape.labelled = true := fun part hpart =>
      List.all_eq_true.1 hfields part.1 (List.of_mem_zip hpart).1
    refine ((List.forall₂_and_left _ _).2 ⟨hlabelled, h⟩).imp ?_
    rintro part datum ⟨hpart, hdatum⟩
    exact readAnywhere_of_readSomewhere hschema hpart hdatum
  have hcount : ∀ {data : List Datum}, List.Forall₂ (FieldRead schema) (fields.zip items) data →
      fields.length = data.length := by
    intro data h
    have hzip := h.length_eq
    rw [List.length_zip] at hzip
    omega
  constructor
  · intro h
    simp only [readNode, reported_eq_ok_iff] at h
    obtain ⟨data, hdata, rfl⟩ := map_eq_ok_iff.1 h
    have hread := forall₂_zip_of_readSeries hlength.symm hdata
    simp only [readNode, reported_eq_ok_iff, bind_eq_ok_iff, unreported_eq_ok_iff]
    exact ⟨_, readFields_zip_of_forall₂ hnames hlength (hanywhere hread),
      assemble_zip hnames (hcount hread)⟩
  · intro h
    simp only [readNode, reported_eq_ok_iff, bind_eq_ok_iff, unreported_eq_ok_iff] at h
    obtain ⟨found, hfound, hrecord⟩ := h
    obtain ⟨data, rfl, hread⟩ := exists_of_readFields_zip hnames hlength hfound
    rw [assemble_zip hnames (hcount hread)] at hrecord
    obtain rfl := Except.ok.inj hrecord
    simp only [readNode, reported_eq_ok_iff, map_eq_ok_iff]
    exact ⟨data, readSeries_of_forall₂ hlength.symm (hanywhere hread) 0, rfl⟩

/-- The data of a variant, read where it stands. -/
theorem readNode_of_namesData_under {title : String} {variants : List (Variant ν)}
    (hvariants : variants.all (·.payload.labelled) = true) {node child : Node} {tag : String}
    {expected : Expected ν} (h : NamesData title variants tag expected child node) (path : Path) :
    readNode schema (.choice title variants) path node =
      ((expected.readAt schema [] child).mapError (·.under (path.child (.key tag)))).map
        (.tagged tag) := by
  have hexpected : expected.labelled = true := by
    obtain ⟨⟨variant, hfound, hpayload⟩, -⟩ := h
    have hvariant := List.all_eq_true.1 hvariants variant (List.mem_of_find?_eq_some hfound)
    exact Payload.labelled_of_expected? hvariant hpayload
  rw [readNode_of_namesData h, Expected.readAt_eq hschema hexpected]
  cases expected.readAt schema [] child with
  | ok datum => rfl
  | error error =>
    -- What is reported inside has the name of the variant in its path.
    have hinside : (error.under (path.child (.key tag))).path ≠ [] := by
      simp [ExtractionError.under, Path.child]
    have hreported : (error.under (path.child (.key tag))).reportedAt path =
        error.under (path.child (.key tag)) := if_neg hinside
    exact congrArg Except.error hreported

section

variable {title : String} {variants : List (Variant ν)}
  (hvariants : variants.all (·.payload.labelled) = true) {path : Path} {node : Node}

include hvariants

theorem readNode_eq_ok_choice_iff {tag : String} :
    readNode schema (.choice title variants) path node = .ok (.choice tag) ↔
      NamesBare variants tag node := by
  constructor
  · intro h
    obtain ⟨other, hbare⟩ | ⟨other, expected, child, hdata⟩ | ⟨cause, hcause⟩ :=
      choice_cases title variants node
    · rw [readNode_of_namesBare hbare] at h
      obtain rfl := Datum.choice.inj (Except.ok.inj h)
      exact hbare
    · rw [readNode_of_namesData_under hschema hvariants hdata] at h
      obtain ⟨payload, -, hpayload⟩ := map_eq_ok_iff.1 h
      cases hpayload
    · rw [readNode_of_unchoosable hcause] at h
      cases h
  · exact fun h => readNode_of_namesBare h path

theorem readNode_eq_ok_tagged_iff {tag : String} {payload : Datum} :
    readNode schema (.choice title variants) path node = .ok (.tagged tag payload) ↔
      ∃ expected child, NamesData title variants tag expected child node ∧
        expected.readAt schema [] child = .ok payload := by
  constructor
  · intro h
    obtain ⟨other, hbare⟩ | ⟨other, expected, child, hdata⟩ | ⟨cause, hcause⟩ :=
      choice_cases title variants node
    · rw [readNode_of_namesBare hbare] at h
      cases h
    · rw [readNode_of_namesData_under hschema hvariants hdata] at h
      obtain ⟨datum, hdatum, heq⟩ := map_eq_ok_iff.1 h
      obtain ⟨rfl, rfl⟩ := Datum.tagged.inj heq
      exact ⟨expected, child, hdata, mapError_eq_ok_iff.1 hdatum⟩
    · rw [readNode_of_unchoosable hcause] at h
      cases h
  · rintro ⟨expected, child, hdata, hpayload⟩
    rw [readNode_of_namesData_under hschema hvariants hdata, hpayload]
    rfl

theorem choice_or_tagged_of_readNode {datum : Datum}
    (h : readNode schema (.choice title variants) path node = .ok datum) :
    (∃ tag, datum = .choice tag) ∨ ∃ tag payload, datum = .tagged tag payload := by
  obtain ⟨tag, hbare⟩ | ⟨tag, expected, child, hdata⟩ | ⟨cause, hcause⟩ :=
    choice_cases title variants node
  · rw [readNode_of_namesBare hbare] at h
    exact .inl ⟨tag, (Except.ok.inj h).symm⟩
  · rw [readNode_of_namesData_under hschema hvariants hdata] at h
    obtain ⟨payload, -, rfl⟩ := map_eq_ok_iff.1 h
    exact .inr ⟨tag, payload, rfl⟩
  · rw [readNode_of_unchoosable hcause] at h
    cases h

theorem readNode_choice_eq_error_iff {error : ExtractionError} :
    readNode schema (.choice title variants) path node = .error error ↔
      (Unchoosable variants node error.fault ∧ error.path = path) ∨
      ∃ tag expected child inner, NamesData title variants tag expected child node ∧
        expected.readAt schema [] child = .error inner ∧
        error = inner.under (path.child (.key tag)) := by
  constructor
  · intro h
    obtain ⟨tag, hbare⟩ | ⟨tag, expected, child, hdata⟩ | ⟨cause, hcause⟩ :=
      choice_cases title variants node
    · rw [readNode_of_namesBare hbare] at h
      cases h
    · rw [readNode_of_namesData_under hschema hvariants hdata] at h
      cases hpayload : expected.readAt schema [] child with
      | ok payload =>
        rw [hpayload] at h
        cases h
      | error inner =>
        rw [hpayload] at h
        exact .inr ⟨tag, expected, child, inner, hdata, hpayload, (Except.error.inj h).symm⟩
    · rw [readNode_of_unchoosable hcause] at h
      obtain rfl := Except.error.inj h
      exact .inl ⟨hcause, rfl⟩
  · rintro (⟨hcause, rfl⟩ | ⟨tag, expected, child, inner, hdata, hpayload, rfl⟩)
    · exact readNode_of_unchoosable hcause error.path
    · rw [readNode_of_namesData_under hschema hvariants hdata, hpayload]
      rfl

end

end

/-- A choice is declared among labelled types, and a node is read as it anywhere.  The node is read
as a variant without data if and only if it is the name of the variant, or a map with this name as
its only key and null under it.  It is read as a variant with data if and only if it is a map with
the name of the variant as its only key, and what is under it is read as the data.  It is read as
nothing else.  Where the data is a record, it may as well be given as the list of its fields.

If the node is not read, then it has not the form of any variant, and the path of the failure is its
own, or its data is not read, and the path goes on with the name of the variant.  And if the choice
is expected somewhere inside of another labelled type and this is where reading the whole fails,
then it is the node there that has not the form of any variant. -/
theorem readChoice_exact {schema : Schema ν} (hschema : ∀ name, (schema name).labelled = true)
    {declared : ν} {title : String} {variants : List (Variant ν)}
    (hdeclared : schema declared = .choice title variants) (path : Path) (node : Node) :
    let read (node : Node) := node.extractAt schema (.declared declared) path
    (∀ tag, read node = .ok (.choice tag) ↔ NamesBare variants tag node) ∧
    (∀ tag payload, read node = .ok (.tagged tag payload) ↔
      ∃ expected child, NamesData title variants tag expected child node ∧
        expected.readAt schema [] child = .ok payload) ∧
    (∀ datum, read node = .ok datum →
      (∃ tag, datum = .choice tag) ∨ ∃ tag payload, datum = .tagged tag payload) ∧
    (∀ tag variant fields, variants.find? (·.name = tag) = some variant →
      variant.payload = .record fields → (fields.map (·.name)).Nodup →
      ∀ items, fields.length = items.length → ∀ datum,
        read (.map [(tag, .list items)]) = .ok datum ↔
          read (.map [(tag, .map ((fields.map (·.name)).zip items))]) = .ok datum) ∧
    (∀ error, read node = .error error ↔
      (Unchoosable variants node error.fault ∧ error.path = path) ∨
      ∃ tag expected child inner, NamesData title variants tag expected child node ∧
        expected.readAt schema [] child = .error inner ∧
        error = inner.under (path.child (.key tag))) ∧
    ∀ (whole found : Expected ν) (root : Node) (error : ExtractionError),
      whole.labelled = true → root.Distinct → whole.readAt schema [] root = .error error →
      whole.at? schema root error.path = some found →
      found.demand schema = .choice title variants →
      ∃ inner, root.follow? error.path = some inner ∧ Unchoosable variants inner error.fault := by
  intro read
  have hvariants : variants.all (·.payload.labelled) = true := by
    have hlabelled := hschema declared
    rw [hdeclared] at hlabelled
    exact hlabelled
  have hread : ∀ node, read node = readNode schema (.choice title variants) path node := by
    intro node
    have hdemand : Demand.ofShape schema (.declared declared) = .choice title variants := by
      rw [Demand.ofShape, hdeclared]
      rfl
    show Shape.finish _ _ _ = _
    rw [Shape.finish_of_ofNull?_eq_none rfl, hdemand]
    cases readNode schema (.choice title variants) path node <;> rfl
  refine ⟨fun tag => ?_, fun tag payload => ?_, fun datum h => ?_, ?_, fun error => ?_, ?_⟩
  · rw [hread]
    exact readNode_eq_ok_choice_iff hschema hvariants
  · rw [hread]
    exact readNode_eq_ok_tagged_iff hschema hvariants
  · rw [hread] at h
    exact choice_or_tagged_of_readNode hschema hvariants h
  · intro tag variant fields hfound hpayload hnames items hlength datum
    have hfields : fields.all (·.shape.labelled) = true := by
      have hvariant := List.all_eq_true.1 hvariants variant (List.mem_of_find?_eq_some hfound)
      rw [hpayload] at hvariant
      exact hvariant
    have hexpected : variant.payload.expected? title tag =
        some (.payload (.record ("struct variant " ++ title ++ "::" ++ tag) fields false)) := by
      rw [hpayload]
      rfl
    rw [hread, hread, readNode_tagged hfound _ hexpected, readNode_tagged hfound _ hexpected,
      reported_eq_ok_iff, reported_eq_ok_iff, map_eq_ok_iff, map_eq_ok_iff]
    refine exists_congr fun record => and_congr_left fun _ => ?_
    exact readNode_fields_iff hschema hfields hnames hlength (path.child (.key tag)) record
  · rw [hread]
    exact readNode_choice_eq_error_iff hschema hvariants
  · intro whole found root error hwhole hroot hfails hat hdemand
    obtain ⟨located, inner, hlocated, hfollow, halone, -⟩ :=
      exists_located hschema hwhole hroot hfails
    obtain rfl := Option.some.inj (hat.symm.trans hlocated)
    have hinner := Expected.readNode_of_readAt found halone
    rw [hdemand] at hinner
    obtain ⟨hcause, -⟩ | ⟨tag, expected, child, other, -, -, heq⟩ :=
      (readNode_choice_eq_error_iff hschema hvariants).1 hinner
    · exact ⟨inner, hfollow, hcause⟩
    · -- A failure of the data would have a path.
      have hpath := congrArg ExtractionError.path heq
      simp [ExtractionError.under, Path.child] at hpath

/-- A channel whose data is a record and is given as a list; and one whose data is a pair with a
text for a number, in a list of channels. -/
theorem readChoice_channel :
    let path : Path := [.index 1]
    let push : Node := .map [("Push", .list [.scalar (.string "t"), .scalar (.integer 2)])]
    let record : Node := .map [("Push",
      .map [("token", .scalar (.string "t")), ("badge", .scalar (.integer 2))])]
    let pair : Node := .map [("Pair", .list [.scalar (.string "a"), .scalar (.string "b")])]
    let datum : Datum := .tagged "Push" (.record [("token", .string "t"), ("badge", .integer 2)])
    record.extractAt Catalog.schema (.declared .channel) path = .ok datum ∧
      push.extractAt Catalog.schema (.declared .channel) path = .ok datum ∧
      pair.extractAt Catalog.schema (.declared .channel) path =
        .error { fault := .invalidType (.string "b") "i32"
                 path := [.index 1, .key "Pair", .index 1] } := by
  intro path push record pair datum
  obtain ⟨-, htagged, -, hlist, -⟩ :=
    @readChoice_exact _ _ Catalog.labelled_schema .channel _ _ rfl path record
  obtain ⟨-, -, -, -, hfails, -⟩ :=
    @readChoice_exact _ _ Catalog.labelled_schema .channel _ _ rfl path pair
  have hrecord : record.extractAt Catalog.schema (.declared .channel) path = .ok datum :=
    (htagged _ _).2 ⟨_, _, ⟨⟨_, rfl, rfl⟩, rfl⟩, rfl⟩
  refine ⟨hrecord, ?_, ?_⟩
  · exact (hlist "Push" _ _ rfl rfl (by decide) _ rfl datum).2 hrecord
  · exact (hfails _).2 (.inr ⟨_, _, _, _, ⟨⟨_, rfl, rfl⟩, rfl⟩, rfl, rfl⟩)

end Placeholder
