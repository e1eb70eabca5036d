import Placeholder.Proofs.Node.Children
import Placeholder.Proofs.Node.Codec
import Placeholder.Shape.Extract

/-!
# Reading as anything

A structure that is read as any structure is taken apart into data, and put together again by trying
the kinds on the data.  Nothing is lost or changed on the way: a list and a map hand out each child
once, in order, with its path and a map with its key as well (`delivers_iff`), so the data is that
of the structure (`bufferNode_eq`), and of the kinds only the right one accepts it
(`Untyped.node?_ofNode`).

Main statement: `extract_dynamic_exact`.
-/

namespace Placeholder

/-! ## What is handed out -/

/-- A loop that asks for an item until there is none is handed out these items. -/
inductive ItemAccess.Delivers : ItemAccess → List PlacedNode → Prop where
  | done {access : ItemAccess} (h : access.next? = none) : Delivers access []
  | next {access rest : ItemAccess} {child : PlacedNode} {children : List PlacedNode}
      (h : access.next? = some (child, rest)) (hrest : Delivers rest children) :
      Delivers access (child :: children)

/-- A loop that asks for a key and then for its node until there is no key is handed out these
keys and nodes. -/
inductive EntryAccess.Delivers : EntryAccess → List (String × PlacedNode) → Prop where
  | done {access : EntryAccess} (h : access.nextKey? = none) : Delivers access []
  | next {access held rest : EntryAccess} {key : String} {child : PlacedNode}
      {children : List (String × PlacedNode)} (hkey : access.nextKey? = some (key, held))
      (hnode : held.nextNode = .ok (child, rest)) (hrest : Delivers rest children) :
      Delivers access ((key, child) :: children)

/-- The items of a list at a path from a position on, each with its path. -/
def placedItems (path : Path) (position : Nat) (items : List Node) : List PlacedNode :=
  (Node.childrenOfItems position items).map fun (segment, item) => ⟨path.child segment, item⟩

/-- The entries of a map at a path, each node with its path. -/
def placedEntries (path : Path) (entries : List (String × Node)) : List (String × PlacedNode) :=
  entries.map fun (key, child) => (key, ⟨path.child (.key key), child⟩)

theorem ItemAccess.delivers_iff {items : List Node} {position : Nat} {path : Path}
    {children : List PlacedNode} :
    Delivers { items, position, path } children ↔ children = placedItems path position items := by
  induction items generalizing position children with
  | nil =>
    constructor
    · intro h
      cases h with
      | done => rfl
      | next h => cases h
    · rintro rfl
      exact .done rfl
  | cons item rest ih =>
    constructor
    · intro h
      cases h with
      | done h => cases h
      | next h hrest =>
        obtain ⟨rfl, rfl⟩ := Prod.mk.inj (Option.some.inj h)
        rw [ih.1 hrest]
        rfl
    · rintro rfl
      exact .next rfl (ih.2 rfl)

theorem EntryAccess.delivers_iff {entries : List (String × Node)}
    {pending : Option (String × Node)} {path : Path} {children : List (String × PlacedNode)} :
    Delivers { entries, pending, path } children ↔ children = placedEntries path entries := by
  induction entries generalizing pending children with
  | nil =>
    constructor
    · intro h
      cases h with
      | done => rfl
      | next hkey => cases hkey
    · rintro rfl
      exact .done rfl
  | cons entry rest ih =>
    obtain ⟨key, child⟩ := entry
    constructor
    · intro h
      cases h with
      | done h => cases h
      | next hkey hnode hrest =>
        obtain ⟨rfl, rfl⟩ := Prod.mk.inj (Option.some.inj hkey)
        obtain ⟨rfl, rfl⟩ := Prod.mk.inj (Except.ok.inj hnode)
        rw [ih.1 hrest]
        rfl
    · rintro rfl
      exact .next rfl rfl (ih.2 rfl)

/-! ## Taken apart -/

theorem bufferItems_of_delivers {access : ItemAccess} {children : List PlacedNode}
    (h : access.Delivers children) (hchildren : ∀ child ∈ children,
      bufferNode child.path child.node = .ok (Untyped.ofNode child.node)) :
    bufferItems access = .ok (children.map fun child => Untyped.ofNode child.node) := by
  induction h with
  | done h =>
    rw [bufferItems]
    split
    · rfl
    · next hsome =>
      rw [h] at hsome
      cases hsome
  | next h hrest ih =>
    rw [bufferItems]
    split
    · next hnone =>
      rw [h] at hnone
      cases hnone
    · next hsome =>
      obtain ⟨rfl, rfl⟩ := Prod.mk.inj (Option.some.inj (h.symm.trans hsome))
      rw [hchildren _ List.mem_cons_self, ih fun other hmem => hchildren other (.tail _ hmem)]
      rfl

theorem bufferEntries_of_delivers {access : EntryAccess} {children : List (String × PlacedNode)}
    (h : access.Delivers children) (hchildren : ∀ child ∈ children,
      bufferNode child.2.path child.2.node = .ok (Untyped.ofNode child.2.node)) :
    bufferEntries access =
      .ok (children.map fun child => (child.1, Untyped.ofNode child.2.node)) := by
  induction h with
  | done h =>
    rw [bufferEntries]
    split
    · rfl
    · next hsome =>
      rw [h] at hsome
      cases hsome
  | next hkey hnode hrest ih =>
    rw [bufferEntries]
    split
    · next hnone =>
      rw [hkey] at hnone
      cases hnone
    · next hsome =>
      obtain ⟨rfl, rfl⟩ := Prod.mk.inj (Option.some.inj (hkey.symm.trans hsome))
      split
      · next herror =>
        rw [hnode] at herror
        cases herror
      · next hok =>
        obtain ⟨rfl, rfl⟩ := Prod.mk.inj (Except.ok.inj (hnode.symm.trans hok))
        rw [hchildren _ List.mem_cons_self, ih fun other hmem => hchildren other (.tail _ hmem)]
        rfl

theorem itemsOfNode_placedItems (path : Path) (position : Nat) (items : List Node) :
    (placedItems path position items).map (fun child => Untyped.ofNode child.node) =
      Untyped.itemsOfNode items := by
  induction items generalizing position with
  | nil => rfl
  | cons item rest ih => exact congrArg (Untyped.ofNode item :: ·) (ih (position + 1))

theorem entriesOfNode_placedEntries (path : Path) (entries : List (String × Node)) :
    (placedEntries path entries).map (fun child => (child.1, Untyped.ofNode child.2.node)) =
      Untyped.entriesOfNode entries := by
  induction entries with
  | nil => rfl
  | cons entry rest ih => exact congrArg ((entry.1, Untyped.ofNode entry.2) :: ·) ih

/-- What a node is taken apart into is the data of the node, wherever it stands. -/
theorem bufferNode_eq (path : Path) (node : Node) :
    bufferNode path node = .ok (Untyped.ofNode node) := by
  have hchild : ∀ segment child, (segment, child) ∈ node.children →
      bufferNode (path.child segment) child = .ok (Untyped.ofNode child) := by
    intro segment child hmem
    have hsmaller : sizeOf child < sizeOf node := Node.sizeOf_lt_of_mem_children hmem
    exact bufferNode_eq (path.child segment) child
  cases node with
  | scalar v =>
    rw [bufferNode]
    rfl
  | map entries =>
    have hentries : bufferEntries { entries, path } = .ok (Untyped.entriesOfNode entries) := by
      rw [bufferEntries_of_delivers (EntryAccess.delivers_iff.2 rfl), entriesOfNode_placedEntries]
      intro placed hmem
      obtain ⟨⟨key, child⟩, hentry, rfl⟩ := List.mem_map.1 hmem
      exact hchild (.key key) child (List.mem_map.2 ⟨_, hentry, rfl⟩)
    rw [bufferNode, hentries]
    rfl
  | list items =>
    have hitems : bufferItems { items, path } = .ok (Untyped.itemsOfNode items) := by
      rw [bufferItems_of_delivers (ItemAccess.delivers_iff.2 rfl), itemsOfNode_placedItems]
      intro placed hmem
      obtain ⟨⟨segment, child⟩, hitem, rfl⟩ := List.mem_map.1 hmem
      exact hchild segment child hitem
    rw [bufferNode, hitems]
    rfl
termination_by sizeOf node

/-! ## Put together again -/

namespace Untyped

mutual

/-- The data of a structure is accepted by the kind that the structure is of, and by no earlier
one. -/
theorem node?_ofNode : ∀ node : Node, (ofNode node).node? = some node
  | .scalar v => by
    have hscalar : (ofValue v).node? = (ofValue v).value?.map .scalar := by
      cases v <;> rfl
    rw [ofNode, hscalar, value?_ofValue]
    rfl
  | .map entries => by
    rw [ofNode, node?, entries?_entriesOfNode entries]
    rfl
  | .list items => by
    rw [ofNode, node?, items?_itemsOfNode items]
    rfl

theorem entries?_entriesOfNode : ∀ entries : List (String × Node),
    entries? (entriesOfNode entries) = some entries
  | [] => rfl
  | (key, child) :: rest => by
    rw [entriesOfNode, entries?, node?_ofNode child, entries?_entriesOfNode rest]
    rfl

theorem items?_itemsOfNode : ∀ items : List Node, items? (itemsOfNode items) = some items
  | [] => rfl
  | item :: rest => by
    rw [itemsOfNode, items?, node?_ofNode item, items?_itemsOfNode rest]
    rfl

end

end Untyped

section

variable {ν : Type} (schema : Schema ν) (path : Path)

theorem readNode_node (node : Node) : readNode schema .node path node = .ok (.node node) := by
  have hread : readAnyNode path node = .ok (.node node) := by
    rw [readAnyNode, bufferNode_eq]
    simp only [Bind.bind, Except.bind, Untyped.node?_ofNode]
    rfl
  cases node <;> exact hread

theorem readNode_value_scalar (v : Value) :
    readNode schema .value path (.scalar v) = .ok (.value v) := by
  show readAnyScalar path (.scalar v) = _
  rw [readAnyScalar, bufferNode_eq]
  simp only [Bind.bind, Except.bind, Untyped.ofNode, Untyped.value?_ofValue]
  rfl

theorem readNode_value_of_value?_eq_none {node : Node} (h : node.value? = none) :
    readNode schema .value path node = .error { fault := .noAlternative "Value" } := by
  have hread : readAnyScalar path node = .error { fault := .noAlternative "Value" } := by
    rw [readAnyScalar, bufferNode_eq]
    cases node with
    | scalar v => cases h
    | map | list => rfl
  cases node with
  | scalar v => cases h
  | map | list => exact hread

end

/-- Read as any structure, every structure comes out as it is.  Read as any scalar, every scalar
comes out as it is, and lists and maps are refused.  On the way every list and every map, wherever
it stands, hands out each child once, in order and with its path, and a map with its key; nothing
else can be handed out.  What a structure is taken apart into is accepted as the structure, by the
first kind that accepts it. -/
theorem extract_dynamic_exact {ν : Type} (schema : Schema ν) (node : Node) (value : Value) :
    node.extract schema .node = .ok (.node node) ∧
    (Node.scalar value).extract schema .value = .ok (.value value) ∧
    (∀ entries, (Node.map entries).extract schema .value =
      .error { fault := .noAlternative "Value" }) ∧
    (∀ items, (Node.list items).extract schema .value =
      .error { fault := .noAlternative "Value" }) ∧
    (∀ items path children, ItemAccess.Delivers { items, path } children ↔
      children = placedItems path 0 items) ∧
    (∀ entries path children, EntryAccess.Delivers { entries, path } children ↔
      children = placedEntries path entries) ∧
    ∀ path, ∃ data, bufferNode path node = .ok data ∧
      Untyped.nodeKinds.findSome? (· data) = some node := by
  have hwrap : ∀ result : Except ExtractionError Datum,
      result.map (Shape.wrap (ν := ν) .node) = result := by
    intro result
    cases result <;> rfl
  have hvalue : ∀ node : Node, node.extract schema .value = readNode schema .value [] node := by
    intro node
    rw [Node.extract, Node.extractAt, Shape.finish_of_ofNull?_eq_none rfl]
    exact hwrap _
  refine ⟨?_, ?_, ?_, ?_, fun _ _ _ => ItemAccess.delivers_iff,
    fun _ _ _ => EntryAccess.delivers_iff, fun path => ⟨_, bufferNode_eq path node, ?_⟩⟩
  · rw [Node.extract, Node.extractAt, Shape.finish_of_ofNull?_eq_none rfl]
    exact (hwrap _).trans (readNode_node schema [] node)
  · rw [hvalue, readNode_value_scalar]
  · intro entries
    rw [hvalue, readNode_value_of_value?_eq_none _ _ rfl]
  · intro items
    rw [hvalue, readNode_value_of_value?_eq_none _ _ rfl]
  · rw [← Untyped.node?_eq_findSome?, Untyped.node?_ofNode]

end Placeholder
