import Placeholder.Node.Place

/-!
# Children

The children of a structure as a list, each with the segment that leads to it
(`child?_of_mem_children`).  They are smaller than the structure, and if it has no repeated keys,
neither have they.
-/

namespace Placeholder.Node

/-- The items of a list from a position on, each with the segment that leads to it. -/
def childrenOfItems (position : Nat) : List Node → List (Segment × Node)
  | [] => []
  | item :: rest => (.index position, item) :: childrenOfItems (position + 1) rest

/-- The entries of a map, each with the segment that leads to it. -/
def childrenOfEntries (entries : List (String × Node)) : List (Segment × Node) :=
  entries.map fun (key, child) => (.key key, child)

/-- The children of a node in document order, each with the segment that leads to it. -/
def children : Node → List (Segment × Node)
  | .scalar _ => []
  | .map entries => childrenOfEntries entries
  | .list items => childrenOfItems 0 items

theorem exists_of_mem_childrenOfItems {position : Nat} {items : List Node} {segment : Segment}
    {child : Node} (h : (segment, child) ∈ childrenOfItems position items) :
    ∃ i, segment = .index (position + i) ∧ items[i]? = some child := by
  induction items generalizing position with
  | nil => simp [childrenOfItems] at h
  | cons item rest ih =>
    rcases List.mem_cons.1 h with h | h
    · obtain ⟨rfl, rfl⟩ := Prod.mk.inj h
      exact ⟨0, rfl, rfl⟩
    · obtain ⟨i, rfl, hi⟩ := ih h
      exact ⟨i + 1, by rw [Nat.add_assoc, Nat.add_comm 1 i], hi⟩

theorem exists_of_mem_childrenOfEntries {entries : List (String × Node)} {segment : Segment}
    {child : Node} (h : (segment, child) ∈ childrenOfEntries entries) :
    ∃ key, segment = .key key ∧ (key, child) ∈ entries := by
  obtain ⟨⟨key, other⟩, hmem, heq⟩ := List.mem_map.1 h
  obtain ⟨rfl, rfl⟩ := Prod.mk.inj heq
  exact ⟨key, rfl, hmem⟩

variable {node child : Node} {segment : Segment}

theorem sizeOf_lt_of_mem_entries {entries : List (String × Node)} {key : String}
    (h : (key, child) ∈ entries) : sizeOf child < sizeOf (Node.map entries) := by
  have hentry := List.sizeOf_lt_of_mem h
  simp only [Prod.mk.sizeOf_spec, map.sizeOf_spec] at hentry ⊢
  omega

theorem sizeOf_lt_of_mem_items {items : List Node} (h : child ∈ items) :
    sizeOf child < sizeOf (Node.list items) := by
  have hitem := List.sizeOf_lt_of_mem h
  simp only [list.sizeOf_spec]
  omega

theorem sizeOf_lt_of_mem_children (h : (segment, child) ∈ node.children) :
    sizeOf child < sizeOf node := by
  cases node with
  | scalar v => cases h
  | map entries =>
    obtain ⟨key, -, hmem⟩ := exists_of_mem_childrenOfEntries h
    exact sizeOf_lt_of_mem_entries hmem
  | list items =>
    obtain ⟨i, -, hitem⟩ := exists_of_mem_childrenOfItems h
    exact sizeOf_lt_of_mem_items (List.mem_of_getElem? hitem)

/-- In a structure without repeated keys, the segments of the children lead to them. -/
theorem child?_of_mem_children (hnode : node.Distinct) (h : (segment, child) ∈ node.children) :
    node.child? segment = some child := by
  cases node with
  | scalar v => cases h
  | map entries =>
    obtain ⟨key, rfl, hmem⟩ := exists_of_mem_childrenOfEntries h
    exact Entries.get?_of_mem hnode.1 hmem
  | list items =>
    obtain ⟨i, rfl, hitem⟩ := exists_of_mem_childrenOfItems h
    rw [Nat.zero_add]
    exact hitem

theorem distinct_of_mem_entries {entries : List (String × Node)} {key : String}
    (hentries : EntriesDistinct entries) (h : (key, child) ∈ entries) : child.Distinct := by
  induction entries with
  | nil => cases h
  | cons entry rest ih =>
    rcases List.mem_cons.1 h with rfl | h
    · exact hentries.1
    · exact ih hentries.2 h

theorem distinct_of_mem_items {items : List Node} (hitems : ItemsDistinct items)
    (h : child ∈ items) : child.Distinct := by
  induction items with
  | nil => cases h
  | cons item rest ih =>
    rcases List.mem_cons.1 h with rfl | h
    · exact hitems.1
    · exact ih hitems.2 h

theorem distinct_of_mem_children (hnode : node.Distinct) (h : (segment, child) ∈ node.children) :
    child.Distinct := by
  cases node with
  | scalar v => cases h
  | map entries =>
    obtain ⟨key, -, hmem⟩ := exists_of_mem_childrenOfEntries h
    exact distinct_of_mem_entries hnode.2 hmem
  | list items =>
    obtain ⟨i, -, hitem⟩ := exists_of_mem_childrenOfItems h
    exact distinct_of_mem_items hnode (List.mem_of_getElem? hitem)

theorem distinct_of_child? (hnode : node.Distinct) (h : node.child? segment = some child) :
    child.Distinct := by
  cases node with
  | scalar v => simp [child?] at h
  | map entries =>
    cases segment with
    | key name => exact distinct_of_mem_entries hnode.2 (Entries.mem_of_get? h)
    | index position => simp [child?] at h
  | list items =>
    cases segment with
    | key name => simp [child?] at h
    | index position => exact distinct_of_mem_items hnode (List.mem_of_getElem? h)

/-- Inside a structure without repeated keys there are none anywhere. -/
theorem distinct_of_follow? {path : Path} {inner : Node} (hnode : node.Distinct)
    (h : node.follow? path = some inner) : inner.Distinct := by
  induction path generalizing node with
  | nil =>
    obtain rfl := Option.some.inj h
    exact hnode
  | cons segment path ih =>
    obtain ⟨child, hchild, hrest⟩ := Option.bind_eq_some_iff.1 h
    exact ih (distinct_of_child? hnode hchild) hrest

end Placeholder.Node
