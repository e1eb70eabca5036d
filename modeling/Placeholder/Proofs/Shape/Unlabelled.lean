import Placeholder.Proofs.Shape.Choice
import Placeholder.Proofs.Shape.Dynamic

/-!
# Lists of unlabelled items

The items of a list of scalars and the segments of a path have no labels, and each is read by trying
its kinds.  An item that no kind accepts reports nothing itself, so that its failure has no path yet
when it comes to the list, and the list gives it its own: the failure says where the list stands but
not at which item it is (`extractAt_unlabelled_exact`).  The failure of a labelled item leads to the
item (`extract_list_error_of_labelled`).
-/

namespace Placeholder

/-! ## Accepting every item -/

/-- What was accepted, or a failure if nothing was. -/
def acceptedOr {α ε : Type} (error : ε) (accepted? : Option α) : Except ε α :=
  accepted?.elim (.error error) .ok

/-- A walk over items fails if one is not accepted, for a cause that does not depend on the item. -/
theorem mapM_acceptedOr {α β ε : Type} (error : ε) (accept? : α → Option β) (items : List α) :
    (items.mapM fun item => acceptedOr error (accept? item)) =
      if items.all fun item => (accept? item).isSome then .ok (items.filterMap accept?)
      else .error error := by
  induction items with
  | nil => rfl
  | cons item rest ih =>
    rw [List.mapM_cons, ih, List.all_cons, List.filterMap_cons]
    cases accept? item with
    | none => rfl
    | some accepted =>
      simp only [Option.isSome_some, Bool.true_and]
      split <;> rfl

/-! ## Labelled items -/

section

variable {ν : Type} {schema : Schema ν} (hschema : ∀ name, (schema name).labelled = true)
  {inner : Shape ν} (hinner : inner.labelled = true) {before : List Node} {data : List Datum}
  (hbefore : List.Forall₂ (ReadSomewhere schema inner) before data) {item : Node}
  {error : ExtractionError} (hitem : item.extract schema inner = .error error) (after : List Node)

include hschema hinner hbefore hitem

theorem readAll_error_of_labelled (path : Path) (position : Nat) :
    readAll schema inner path position (before ++ item :: after) =
      .error (error.under (path.child (.index (position + before.length)))) := by
  induction hbefore generalizing position with
  | nil =>
    have hfails : item.extractAt schema inner (path.child (.index position)) =
        (item.extract schema inner).mapError (·.under (path.child (.index position))) :=
      @Expected.readAt_eq ν schema hschema (.shape inner) hinner _ item
    rw [hitem] at hfails
    rw [List.nil_append, readAll]
    exact congrArg (· >>= _) hfails
  | @cons first datum before data hfirst _ ih =>
    have hread := readAnywhere_of_readSomewhere hschema hinner hfirst
      (path.child (.index position))
    have hrest := ih (position + 1)
    rw [Nat.add_right_comm] at hrest
    rw [List.cons_append, readAll, hrest]
    exact congrArg (· >>= _) hread

/-- The failure of a labelled item leads to the item. -/
theorem extract_list_error_of_labelled :
    (Node.list (before ++ item :: after)).extract schema (.list inner) =
      .error (error.under [.index before.length]) := by
  rw [Node.extract, Node.extractAt, Shape.finish_of_ofNull?_eq_none rfl]
  simp only [Demand.ofShape, readNode, readAll_error_of_labelled hschema hinner hbefore hitem after]
  rw [Nat.zero_add]
  rfl

end

/-! ## Scalars -/

section

variable {ν : Type} (schema : Schema ν)

/-- A node that is no scalar reports nothing itself. -/
theorem extractAt_value_eq (node : Node) (path : Path) :
    node.extractAt schema .value path =
      acceptedOr { fault := .noAlternative "Value" } (node.value?.map Datum.value) := by
  have hread : readNode schema .value path node =
      acceptedOr { fault := .noAlternative "Value" } (node.value?.map Datum.value) := by
    cases hvalue : node.value? with
    | none => exact readNode_value_of_value?_eq_none schema path hvalue
    | some v =>
      cases node with
      | scalar w =>
        obtain rfl := Option.some.inj hvalue
        exact readNode_value_scalar schema path w
      | map | list => cases hvalue
  rw [Node.extractAt, Shape.finish_of_ofNull?_eq_none rfl]
  refine (congrArg (Except.map (Shape.wrap .value)) hread).trans ?_
  cases node.value? <;> rfl

theorem readAll_value_eq (path : Path) (position : Nat) (items : List Node) :
    readAll schema .value path position items =
      items.mapM fun item =>
        acceptedOr { fault := .noAlternative "Value" } (item.value?.map Datum.value) := by
  induction items generalizing position with
  | nil =>
    rw [readAll]
    rfl
  | cons item rest ih =>
    have hitem := extractAt_value_eq schema item (path.child (.index position))
    rw [readAll, List.mapM_cons, ih, ← hitem]
    rfl

end

/-! ## Segments -/

/-- The segment that a scalar is: a text is a key, and an integer that is not negative a
position. -/
def Value.segment? : Value → Option Segment
  | .string name => some (.key name)
  | .integer i => if 0 ≤ i.toInt then some (.index i.toInt.toNat) else none
  | _ => none

def Node.segment? (node : Node) : Option Segment := node.value?.bind Value.segment?

theorem ofUntyped?_ofNode (node : Node) :
    Segment.ofUntyped? (Untyped.ofNode node) = node.segment? := by
  cases node with
  | scalar v => cases v <;> rfl
  | map | list => rfl

theorem ofUntyped_list (items : List Node) :
    Path.ofUntyped (Untyped.ofNode (.list items)) =
      items.mapM fun item => acceptedOr (.noAlternative "PathSegment") item.segment? := by
  rw [Untyped.ofNode, Path.ofUntyped]
  induction items with
  | nil => rfl
  | cons item rest ih =>
    rw [Untyped.itemsOfNode, List.mapM_cons, List.mapM_cons, ih, ofUntyped?_ofNode]
    cases item.segment? <;> rfl

/-! ## Lists -/

section

variable {ν : Type} (schema : Schema ν) (path : Path)

theorem extractAt_values_eq (items : List Node) :
    (Node.list items).extractAt schema (.list .value) path =
      if items.all (·.value?.isSome) then .ok (.series (items.filterMap (·.value?.map Datum.value)))
      else .error { fault := .noAlternative "Value", path } := by
  rw [Node.extractAt, Shape.finish_of_ofNull?_eq_none rfl]
  simp only [Demand.ofShape, readNode, readAll_value_eq, mapM_acceptedOr, Option.isSome_map]
  cases items.all (·.value?.isSome) <;> rfl

theorem extractAt_path_eq (items : List Node) :
    (Node.list items).extractAt schema .path path =
      if items.all (·.segment?.isSome) then .ok (.path (items.filterMap Node.segment?))
      else .error { fault := .noAlternative "PathSegment", path } := by
  rw [Node.extractAt, Shape.finish_of_ofNull?_eq_none rfl]
  simp only [Demand.ofShape, readNode, ofUntyped_list, mapM_acceptedOr]
  cases items.all (·.segment?.isSome) <;> rfl

/-- A list of scalars and a path are read from a list if all its items are scalars, or all are
segments.  Otherwise the failure has the path of the list, whichever item it is that is refused: the
item itself fails without a path, wherever it stands.  A list with labelled items, though, fails as
the first of its items that fails, at the place of this item. -/
theorem extractAt_unlabelled_exact (items : List Node) :
    ((Node.list items).extractAt schema (.list .value) path =
      if items.all (·.value?.isSome) then .ok (.series (items.filterMap (·.value?.map Datum.value)))
      else .error { fault := .noAlternative "Value", path }) ∧
    ((Node.list items).extractAt schema .path path =
      if items.all (·.segment?.isSome) then .ok (.path (items.filterMap Node.segment?))
      else .error { fault := .noAlternative "PathSegment", path }) ∧
    (∀ (item : Node) (place : Path), item.extractAt schema .value place =
      acceptedOr { fault := .noAlternative "Value" } (item.value?.map Datum.value)) ∧
    ((∀ name, (schema name).labelled = true) → ∀ inner : Shape ν, inner.labelled = true →
      ∀ before data item error after, items = before ++ item :: after →
        List.Forall₂ (ReadSomewhere schema inner) before data →
        item.extract schema inner = .error error →
        (Node.list items).extract schema (.list inner) =
          .error (error.under [.index before.length])) := by
  refine ⟨extractAt_values_eq schema path items, extractAt_path_eq schema path items,
    extractAt_value_eq schema, ?_⟩
  rintro hschema inner hinner before data item error after rfl hbefore hitem
  exact extract_list_error_of_labelled hschema hinner hbefore hitem after

/-- The same list for scalars and for integers: the second item is refused, and only for integers
does the path say so. -/
theorem extractAt_unlabelled_second :
    let items : List Node := [.scalar (.integer 1), .list [.scalar (.integer 2)]]
    (Node.list items).extractAt Catalog.schema (.list .value) [] =
      .error { fault := .noAlternative "Value" } ∧
    (Node.list items).extract Catalog.schema (.list (.integer (.signed 64))) =
      .error { fault := .invalidType .sequence "i64", path := [.index 1] } := by
  intro items
  obtain ⟨hvalues, -, -, hlabelled⟩ := extractAt_unlabelled_exact Catalog.schema [] items
  refine ⟨hvalues, ?_⟩
  have hfirst : ReadSomewhere Catalog.schema (.integer (.signed 64)) (.scalar (.integer 1))
      (.integer 1) := ⟨[], rfl⟩
  exact hlabelled Catalog.labelled_schema (.integer (.signed 64)) rfl [.scalar (.integer 1)] _ _ _
    [] rfl (.cons hfirst .nil) rfl

/-- The item that is refused is not where the failure is reported to be. -/
theorem not_forall_extract_error_at_item :
    (¬ ∀ (before after : List Node) (item : Node), (∀ other ∈ before, other.value?.isSome) →
      item.value? = none →
        ∃ cause, (Node.list (before ++ item :: after)).extract Catalog.schema (.list .value) =
          .error { fault := cause, path := [.index before.length] }) ∧
    ¬ ∀ (before after : List Node) (item : Node), (∀ other ∈ before, other.segment?.isSome) →
      item.segment? = none →
        ∃ cause, (Node.list (before ++ item :: after)).extract Catalog.schema .path =
          .error { fault := cause, path := [.index before.length] } := by
  constructor
  · intro h
    obtain ⟨cause, hcause⟩ := h [.scalar (.integer 1)] [] (.list [.scalar (.integer 2)])
      (by simp [Node.value?]) rfl
    have heq := extractAt_values_eq Catalog.schema []
      [.scalar (.integer 1), .list [.scalar (.integer 2)]]
    cases heq.symm.trans hcause
  · intro h
    obtain ⟨cause, hcause⟩ := h [] [] (.scalar (.integer (-1))) (by simp) rfl
    have heq := extractAt_path_eq Catalog.schema [] [.scalar (.integer (-1))]
    cases heq.symm.trans hcause

end

end Placeholder
