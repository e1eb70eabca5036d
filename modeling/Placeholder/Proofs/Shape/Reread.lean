import Placeholder.Proofs.Shape.Dynamic
import Placeholder.Proofs.Shape.Sorted
import Placeholder.Proofs.Shape.Written

/-!
# Data that is read again

A type accepts several forms of the same datum, and the datum is written in only one of them.  If
this form is read as the same datum, the datum is read again (`Rereads`).  A datum made of parts is
read again if its parts are: there is one lemma for each way in which data is made.

Types of data are those without parts that only tell how they are read.  No two fields of a type of
data have the same name, and its defaults are read again.
-/

namespace Placeholder

variable {ν : Type}

/-! ## Types of data -/

/-- The shape has no part that only tells how it is read.  Declared types are not looked into. -/
def Shape.isData : Shape ν → Bool
  | .valueFirst | .sizes => false
  | .option inner | .renamed inner | .list inner | .array _ inner | .map _ inner => inner.isData
  | .pair first second => first.isData && second.isData
  | _ => true

section

variable (schema : Schema ν)

/-- What the datum is written as is read as the datum, wherever it stands. -/
def Rereads (expected : Expected ν) (datum : Datum) : Prop :=
  ∀ path, expected.readAt schema path datum.written = .ok datum

/-- Fields of data, with different names, whose defaults are data of the fields. -/
structure FieldsOfData (fields : List (Field ν)) : Prop where
  nodup : (fields.map (·.name)).Nodup
  isData : ∀ field ∈ fields, field.shape.isData = true
  rereads_default : ∀ field ∈ fields, ∀ datum, field.default? = some datum →
    Rereads schema (.shape field.shape) datum

def Payload.OfData : Payload ν → Prop
  | .none => True
  | .single shape => shape.isData = true
  | .series shapes => ∀ shape ∈ shapes, shape.isData = true
  | .record fields => FieldsOfData schema fields

def Demand.OfData : Demand ν → Prop
  | .valueFirst | .sizes => False
  | .list inner | .map _ inner => inner.isData = true
  | .series _ _ shapes => ∀ shape ∈ shapes, shape.isData = true
  | .record _ fields _ => FieldsOfData schema fields
  | .choice _ variants => ∀ variant ∈ variants, variant.payload.OfData schema
  | _ => True

def Expected.OfData : Expected ν → Prop
  | .shape inner => inner.isData = true
  | .payload inner => inner.OfData schema

end

variable {schema : Schema ν}

theorem Payload.ofData_of_expected? {payload : Payload ν} {choice tag : String}
    {expected : Expected ν} (hpayload : payload.OfData schema)
    (h : payload.expected? choice tag = some expected) : expected.OfData schema := by
  cases payload with
  | none => cases h
  | single | series | record =>
    obtain rfl := Option.some.inj h
    exact hpayload

theorem Demand.ofData_ofShape
    (hschema : ∀ name, (Demand.ofDeclaration (schema name)).OfData schema) {shape : Shape ν}
    (hshape : shape.isData = true) : (Demand.ofShape schema shape).OfData schema := by
  induction shape with
  | option inner ih => exact ih hshape
  | renamed inner ih => exact ih hshape
  | list | map => exact hshape
  | pair first second =>
    obtain ⟨hfirst, hsecond⟩ := Bool.and_eq_true_iff.1 hshape
    intro shape hmem
    rcases List.mem_cons.1 hmem with rfl | hmem
    · exact hfirst
    · rwa [List.mem_singleton.1 hmem]
  | array length inner =>
    intro shape hmem
    rw [List.eq_of_mem_replicate hmem]
    exact hshape
  | declared name => exact hschema name
  | valueFirst | sizes => cases hshape
  | string | boolean | character | unit | integer | float | value | node | path => trivial

/-! ## Data made of parts -/

section

variable {shape : Shape ν} {datum : Datum}

/-- What null stands for is written as null. -/
theorem Shape.eq_absent_of_ofNull? (h : shape.ofNull? = some datum) : datum = .absent := by
  induction shape with
  | option inner => exact (Option.some.inj h).symm
  | renamed inner ih => exact ih h
  | _ => cases h

theorem rereads_of_ofNull? (h : shape.ofNull? = some datum) :
    Rereads schema (.shape shape) datum := by
  intro path
  obtain rfl := Shape.eq_absent_of_ofNull? h
  show Shape.finish shape (.scalar .null) _ = _
  unfold Shape.finish
  rw [h]

theorem rereads_wrap (h : Rereads schema (.payload (Demand.ofShape schema shape)) datum)
    (hnull : shape.ofNull? = none ∨ datum.written ≠ .scalar .null) :
    Rereads schema (.shape shape) (shape.wrap datum) := by
  intro path
  have hread : readNode schema (Demand.ofShape schema shape) path datum.written = .ok datum :=
    h path
  show Shape.finish shape (shape.wrap datum).written _ = _
  rw [Datum.written_wrap, hread]
  rcases hnull with hnull | hnull
  · exact Shape.finish_of_ofNull?_eq_none hnull _ _
  · exact Shape.finish_of_ne_null shape hnull _

end

theorem rereads_list {inner : Shape ν} {data : List Datum}
    (h : ∀ datum ∈ data, Rereads schema (.shape inner) datum) :
    Rereads schema (.payload (.list inner)) (.series data) := by
  intro path
  have hitems : List.Forall₂ (ReadAnywhere schema inner) (data.map Datum.written) data :=
    List.forall₂_map_left_iff.2 (List.forall₂_same.2 h)
  show readNode schema (.list inner) path (Datum.series data).written = _
  rw [Datum.written_series]
  simp only [readNode, reported_eq_ok_iff, map_eq_ok_iff]
  exact ⟨data, readAll_of_forall₂ hitems 0, rfl⟩

theorem forall₂_zip_written {fields : List (Field ν)} {data : List Datum}
    (h : List.Forall₂ (fun field datum => Rereads schema (.shape field.shape) datum) fields data) :
    List.Forall₂ (fun part datum => ReadAnywhere schema part.1.shape part.2 datum)
      (fields.zip (data.map Datum.written)) data := by
  induction h with
  | nil => exact .nil
  | cons hdatum _ ih => exact .cons hdatum ih

theorem rereads_series {title counted : String} {shapes : List (Shape ν)} {data : List Datum}
    (h : List.Forall₂ (fun shape datum => Rereads schema (.shape shape) datum) shapes data) :
    Rereads schema (.payload (.series title counted shapes)) (.series data) := by
  intro path
  have hfields : List.Forall₂ (fun field datum => Rereads schema (.shape field.shape) datum)
      (seriesFields shapes) data := List.forall₂_map_left_iff.2 h
  have hlength : (data.map Datum.written).length = (seriesFields shapes).length := by
    rw [List.length_map, hfields.length_eq]
  show readNode schema (.series title counted shapes) path (Datum.series data).written = _
  rw [Datum.written_series]
  simp only [readNode, reported_eq_ok_iff, map_eq_ok_iff]
  exact ⟨data, readSeries_of_forall₂ hlength (forall₂_zip_written hfields) 0, rfl⟩

theorem rereads_record {title : String} {fields : List (Field ν)} {closed : Bool}
    {data : List Datum} (hnames : (fields.map (·.name)).Nodup)
    (h : List.Forall₂ (fun field datum => Rereads schema (.shape field.shape) datum) fields data) :
    Rereads schema (.payload (.record title fields closed))
      (.record ((fields.map (·.name)).zip data)) := by
  intro path
  have hlength : fields.length = (data.map Datum.written).length := by
    rw [List.length_map, h.length_eq]
  show readNode schema (.record title fields closed) path (Datum.record _).written = _
  rw [Datum.written_record]
  simp only [readNode, reported_eq_ok_iff, bind_eq_ok_iff, unreported_eq_ok_iff]
  exact ⟨_, readFields_zip_of_forall₂ hnames hlength (forall₂_zip_written h),
    assemble_zip hnames h.length_eq⟩

theorem rereads_map {key : KeyShape ν} {inner : Shape ν} {entries : List (String × Datum)}
    (hsorted : InOrder (keyBefore schema key) entries)
    (h : ∀ entry ∈ entries, readKey schema key entry.1 = .ok entry.1 ∧
      Rereads schema (.shape inner) entry.2) :
    Rereads schema (.payload (.map key inner)) (.map entries) := by
  intro path
  show readNode schema (.map key inner) path (Datum.map entries).written = _
  rw [Datum.written_map]
  simp only [readNode, reported_eq_ok_iff, map_eq_ok_iff]
  refine ⟨entries, readEntries_of_forall₂ ?_, by rw [sortEntries_of_pairwise hsorted]⟩
  rw [Datum.writtenEntries, List.forall₂_map_left_iff, List.forall₂_same]
  exact fun entry hmem => ⟨rfl, h entry hmem⟩

theorem rereads_value {v : Value} (h : v.isFinite = true) :
    Rereads schema (.payload .value) (.value v) := by
  intro path
  show readNode schema .value path (Datum.value v).written = _
  rw [Datum.written_value, Value.orNull_of_isFinite h, readNode_value_scalar]

theorem rereads_node {node : Node} (h : node.allFinite = true) :
    Rereads schema (.payload .node) (.node node) := by
  intro path
  show readNode schema .node path (Datum.node node).written = _
  rw [Datum.written_node h, readNode_node]

section

variable {title tag : String} {variants : List (Variant ν)}

theorem rereads_choice {variant : Variant ν} (hfound : variants.find? (·.name = tag) = some variant)
    (hdata : variant.payload = .none) :
    Rereads schema (.payload (.choice title variants)) (.choice tag) :=
  readNode_of_namesBare ⟨⟨variant, hfound, hdata⟩, .inl rfl⟩

theorem rereads_tagged {variant : Variant ν} {expected : Expected ν} {payload : Datum}
    (hfound : variants.find? (·.name = tag) = some variant)
    (hexpected : variant.payload.expected? title tag = some expected)
    (h : Rereads schema expected payload) :
    Rereads schema (.payload (.choice title variants)) (.tagged tag payload) := by
  intro path
  have hnames : NamesData title variants tag expected payload.written
      (Datum.tagged tag payload).written :=
    ⟨⟨variant, hfound, hexpected⟩, Datum.written_tagged tag payload⟩
  exact (readNode_of_namesData hnames path).trans (by rw [h]; rfl)

end

end Placeholder
