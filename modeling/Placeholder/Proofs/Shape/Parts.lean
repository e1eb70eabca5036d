import Placeholder.Proofs.Node.Children
import Placeholder.Shape.Extract

/-!
# Parts

What a node asks of its children when it is read as a demand, without a look into the children.
`Demand.parts` are the children that are read, in order, each with what it is expected to be.

A demand is labelled if it has no part whose alternatives are tried without a label.  All parts of a
labelled demand are labelled (`labelled_of_mem_parts`).
-/

namespace Placeholder

variable {ν : Type}

/-! ## Labelled types -/

/-- The shape has no part whose alternatives are not labelled.  Declared types are not looked
into. -/
def Shape.labelled : Shape ν → Bool
  | .value | .node | .path => false
  | .option inner | .renamed inner | .list inner | .array _ inner | .map _ inner => inner.labelled
  | .pair first second => first.labelled && second.labelled
  | _ => true

def Payload.labelled : Payload ν → Bool
  | .none => true
  | .single shape => shape.labelled
  | .series shapes => shapes.all Shape.labelled
  | .record fields => fields.all (·.shape.labelled)

def Declaration.labelled : Declaration ν → Bool
  | .record _ fields _ => fields.all (·.shape.labelled)
  | .series _ shapes => shapes.all Shape.labelled
  | .marker _ => true
  | .choice _ variants => variants.all (·.payload.labelled)

def Demand.labelled : Demand ν → Bool
  | .value | .node | .path => false
  | .list inner | .map _ inner => inner.labelled
  | .series _ _ shapes => shapes.all Shape.labelled
  | .record _ fields _ => fields.all (·.shape.labelled)
  | .choice _ variants => variants.all (·.payload.labelled)
  | _ => true

/-! ## Parts -/

/-- What a child is expected to be. -/
inductive Expected (ν : Type) where
  | shape (shape : Shape ν)
  /-- The data of a variant. -/
  | payload (demand : Demand ν)

def Expected.labelled : Expected ν → Bool
  | .shape inner => inner.labelled
  | .payload inner => inner.labelled

/-- A child that is read, with what it is expected to be. -/
structure Part (ν : Type) where
  segment : Segment
  expected : Expected ν
  child : Node

/-- What the data of a variant is expected to be, if the variant has data. -/
def Payload.expected? (choice tag : String) : Payload ν → Option (Expected ν)
  | .none => .none
  | .single shape => some (.shape shape)
  | .series shapes =>
    some (.payload (.ofSeries ("tuple variant " ++ choice ++ "::" ++ tag) shapes))
  | .record fields =>
    some (.payload (.record ("struct variant " ++ choice ++ "::" ++ tag) fields false))

namespace Expected

/-- What is asked of the node. -/
def demand (schema : Schema ν) : Expected ν → Demand ν
  | .shape inner => Demand.ofShape schema inner
  | .payload inner => inner

/-- The node at a path, read as what is expected. -/
def readAt (schema : Schema ν) (path : Path) (node : Node) :
    Expected ν → Except ExtractionError Datum
  | .shape inner => node.extractAt schema inner path
  | .payload inner => readNode schema inner path node

end Expected

/-- A part of the node at a path, read where it stands. -/
def Part.readAt (schema : Schema ν) (path : Path) (part : Part ν) :
    Except ExtractionError Datum :=
  part.expected.readAt schema (path.child part.segment) part.child

/-- A part, read as if it were the root. -/
def Part.readAlone (schema : Schema ν) (part : Part ν) : Except ExtractionError Datum :=
  part.expected.readAt schema [] part.child

namespace Demand

/-- What the child of a node under a segment is expected to be, if it counts at all. -/
def inside? : Demand ν → Node → Segment → Option (Expected ν)
  | .list inner, .list _, .index _ => some (.shape inner)
  | .series _ _ shapes, .list _, .index position => shapes[position]?.map .shape
  | .record _ fields _, .list _, .index position => fields[position]?.map (.shape ·.shape)
  | .map _ inner, .map _, .key _ => some (.shape inner)
  | .record _ fields _, .map _, .key name => (fields.find? (·.name = name)).map (.shape ·.shape)
  | .choice name variants, .map [_], .key tag =>
    (variants.find? (·.name = tag)).bind fun variant => variant.payload.expected? name tag
  | _, _, _ => none

/-- Whether reading goes on at a segment.  A closed record stops at a name that it does not know,
and a map at a key that is not of its kind. -/
def admits (schema : Schema ν) : Demand ν → Segment → Bool
  | .record _ fields true, .key name => (fields.find? (·.name = name)).isSome
  | .map key _, .key name => (readKey schema key name).isOk
  | _, _ => true

end Demand

/-- The children that are read, up to the first that is not admitted. -/
def partsOf (admits : Segment → Bool) (inside? : Segment → Option (Expected ν))
    (children : List (Segment × Node)) : List (Part ν) :=
  (children.takeWhile (admits ·.1)).filterMap fun child =>
    (inside? child.1).map fun expected => { segment := child.1, expected, child := child.2 }

/-- The children of a node that are read, in order. -/
def Demand.parts (schema : Schema ν) (demand : Demand ν) (node : Node) : List (Part ν) :=
  partsOf (demand.admits schema) (demand.inside? node) node.children

section PartsOf

variable {admits : Segment → Bool} {inside? : Segment → Option (Expected ν)}

theorem partsOf_stop {segment : Segment} (h : admits segment = false) (child : Node)
    (rest : List (Segment × Node)) : partsOf admits inside? ((segment, child) :: rest) = [] := by
  simp [partsOf, h]

theorem partsOf_skip {segment : Segment} (h : admits segment = true)
    (hinside : inside? segment = none) (child : Node) (rest : List (Segment × Node)) :
    partsOf admits inside? ((segment, child) :: rest) = partsOf admits inside? rest := by
  simp [partsOf, h, hinside]

theorem partsOf_read {segment : Segment} {expected : Expected ν} (h : admits segment = true)
    (hinside : inside? segment = some expected) (child : Node) (rest : List (Segment × Node)) :
    partsOf admits inside? ((segment, child) :: rest) =
      ⟨segment, expected, child⟩ :: partsOf admits inside? rest := by
  simp [partsOf, h, hinside]

theorem partsOf_eq_nil {children : List (Segment × Node)}
    (h : ∀ child ∈ children, inside? child.1 = none) : partsOf admits inside? children = [] := by
  rw [partsOf, List.filterMap_eq_nil_iff]
  intro child hchild
  rw [h child ((List.takeWhile_sublist _).subset hchild), Option.map_none]

theorem mem_partsOf {children : List (Segment × Node)} {part : Part ν}
    (h : part ∈ partsOf admits inside? children) :
    (part.segment, part.child) ∈ children ∧ inside? part.segment = some part.expected := by
  obtain ⟨child, hchild, hpart⟩ := List.mem_filterMap.1 h
  obtain ⟨expected, hexpected, rfl⟩ := Option.map_eq_some_iff.1 hpart
  exact ⟨(List.takeWhile_sublist _).subset hchild, hexpected⟩

end PartsOf

/-! ## What labelled types ask for -/

theorem Payload.labelled_of_expected? {payload : Payload ν} {choice tag : String}
    {expected : Expected ν} (hpayload : payload.labelled = true)
    (h : payload.expected? choice tag = some expected) : expected.labelled = true := by
  cases payload with
  | none => cases h
  | single | series | record =>
    obtain rfl := Option.some.inj h
    exact hpayload

theorem Demand.labelled_of_inside? {demand : Demand ν} {node : Node} {segment : Segment}
    {expected : Expected ν} (hdemand : demand.labelled = true)
    (h : demand.inside? node segment = some expected) : expected.labelled = true := by
  unfold inside? at h
  split at h
  · obtain rfl := Option.some.inj h
    exact hdemand
  · obtain ⟨shape, hshape, rfl⟩ := Option.map_eq_some_iff.1 h
    exact List.all_eq_true.1 hdemand shape (List.mem_of_getElem? hshape)
  · obtain ⟨field, hfield, rfl⟩ := Option.map_eq_some_iff.1 h
    exact List.all_eq_true.1 hdemand field (List.mem_of_getElem? hfield)
  · obtain rfl := Option.some.inj h
    exact hdemand
  · obtain ⟨field, hfield, rfl⟩ := Option.map_eq_some_iff.1 h
    exact List.all_eq_true.1 hdemand field (List.mem_of_find?_eq_some hfield)
  · obtain ⟨variant, hvariant, hexpected⟩ := Option.bind_eq_some_iff.1 h
    have hpayload := List.all_eq_true.1 hdemand variant (List.mem_of_find?_eq_some hvariant)
    exact Payload.labelled_of_expected? hpayload hexpected
  · cases h

theorem Demand.labelled_ofDeclaration {declaration : Declaration ν}
    (h : declaration.labelled = true) : (Demand.ofDeclaration declaration).labelled = true := by
  cases declaration with
  | record | series | choice => exact h
  | marker => rfl

theorem Demand.labelled_ofShape {schema : Schema ν}
    (hschema : ∀ name, (schema name).labelled = true) {shape : Shape ν}
    (hshape : shape.labelled = true) : (Demand.ofShape schema shape).labelled = true := by
  induction shape with
  | option inner ih => exact ih hshape
  | renamed inner ih => exact ih hshape
  | list | map => exact hshape
  | pair first second => simpa [Shape.labelled, ofShape, labelled] using hshape
  | array length inner =>
    refine List.all_eq_true.2 fun shape hmem => ?_
    rw [List.eq_of_mem_replicate hmem]
    exact hshape
  | declared name => exact labelled_ofDeclaration (hschema name)
  | value | node | path => simp [Shape.labelled] at hshape
  | string | boolean | character | unit | integer | float | valueFirst | sizes => rfl

theorem Expected.labelled_demand {schema : Schema ν}
    (hschema : ∀ name, (schema name).labelled = true) {expected : Expected ν}
    (h : expected.labelled = true) : (expected.demand schema).labelled = true := by
  cases expected with
  | shape inner => exact Demand.labelled_ofShape hschema h
  | payload inner => exact h

theorem labelled_of_mem_parts {schema : Schema ν} {demand : Demand ν}
    (hdemand : demand.labelled = true) {node : Node} {part : Part ν}
    (h : part ∈ demand.parts schema node) : part.expected.labelled = true :=
  Demand.labelled_of_inside? hdemand (mem_partsOf h).2

end Placeholder
