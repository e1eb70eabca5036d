import Placeholder.Node.Place

/-!
# The texts of a structure

`Node.texts` walks through a structure and lists its texts with the paths to them.  Here the list is
told without the walk: it has exactly the string leaves (`mem_texts_iff`), and they stand in
document order (`pairwise_texts`).

Of two places the one comes first in document order that goes on to an earlier child where their
paths part: the entries of a map come in the order of its keys, the items of a list by position.
-/

namespace Placeholder.Node

/-! ## All string leaves -/

theorem mem_textsOfEntries {entries : List (String × Node)} {key : String} {child : Node}
    {placed : PlacedText} (hmem : (key, child) ∈ entries) (h : placed ∈ child.texts) :
    placed.inside (.key key) ∈ textsOfEntries entries := by
  induction entries with
  | nil => simp at hmem
  | cons entry rest ih =>
    obtain ⟨name, first⟩ := entry
    rw [textsOfEntries, List.mem_append]
    rcases List.mem_cons.1 hmem with heq | hrest
    · obtain ⟨rfl, rfl⟩ := Prod.mk.inj heq
      exact .inl (List.mem_map.2 ⟨placed, h, rfl⟩)
    · exact .inr (ih hrest)

theorem mem_textsOfItems {items : List Node} {i : Nat} {item : Node} {placed : PlacedText}
    (position : Nat) (hitem : items[i]? = some item) (h : placed ∈ item.texts) :
    placed.inside (.index (position + i)) ∈ textsOfItems position items := by
  induction items generalizing i position with
  | nil => simp at hitem
  | cons first rest ih =>
    rw [textsOfItems, List.mem_append]
    cases i with
    | zero =>
      obtain rfl := Option.some.inj hitem
      exact .inl (List.mem_map.2 ⟨placed, h, rfl⟩)
    | succ i =>
      rw [List.getElem?_cons_succ] at hitem
      have hrest := ih (position + 1) hitem
      rw [Nat.add_right_comm, Nat.add_assoc] at hrest
      exact .inr hrest

theorem mem_texts_of_follow? {node : Node} {path : Path} {text : String}
    (h : node.follow? path = some (.scalar (.string text))) : ⟨path, text⟩ ∈ node.texts := by
  induction path generalizing node with
  | nil =>
    obtain rfl := Option.some.inj h
    exact List.mem_singleton.2 rfl
  | cons segment path ih =>
    obtain ⟨child, hchild, hrest⟩ := Option.bind_eq_some_iff.1 h
    cases node with
    | scalar v => simp [child?] at hchild
    | map entries =>
      cases segment with
      | key name => exact mem_textsOfEntries (Entries.mem_of_get? hchild) (ih hrest)
      | index position => simp [child?] at hchild
    | list items =>
      cases segment with
      | key name => simp [child?] at hchild
      | index position =>
        have hmem := mem_textsOfItems 0 hchild (ih hrest)
        rwa [Nat.zero_add] at hmem

/-- The texts of a structure are its string leaves, each with the path that leads to it. -/
theorem mem_texts_iff {node : Node} (hnode : node.Distinct) (path : Path) (text : String) :
    ⟨path, text⟩ ∈ node.texts ↔ node.follow? path = some (.scalar (.string text)) :=
  ⟨fun h => follow?_of_mem_texts hnode ⟨path, text⟩ h, mem_texts_of_follow?⟩

/-! ## Document order -/

/-- One child of a node comes before another. -/
def ChildBefore : Node → Segment → Segment → Prop
  | .map entries, .key first, .key second => [first, second].Sublist (Entries.keys entries)
  | .list _, .index first, .index second => first < second
  | _, _, _ => False

/-- One place comes before another in document order: where the two paths part, the first goes on
to an earlier child. -/
def Precedes (node : Node) (first second : Path) : Prop :=
  ∃ (common rest rest' : Path) (segment segment' : Segment) (inner : Node),
    first = common ++ segment :: rest ∧ second = common ++ segment' :: rest' ∧
      node.follow? common = some inner ∧ inner.ChildBefore segment segment'

theorem Precedes.inside {node child : Node} {segment : Segment} {first second : Path}
    (h : child.Precedes first second) (hchild : node.child? segment = some child) :
    node.Precedes (segment :: first) (segment :: second) := by
  obtain ⟨common, rest, rest', here, there, inner, rfl, rfl, hfollow, hbefore⟩ := h
  refine ⟨segment :: common, rest, rest', here, there, inner, rfl, rfl, ?_, hbefore⟩
  rw [follow?, hchild]
  exact hfollow

theorem ChildBefore.precedes {node : Node} {segment segment' : Segment}
    (h : node.ChildBefore segment segment') (first second : Path) :
    node.Precedes (segment :: first) (segment' :: second) :=
  ⟨[], first, second, segment, segment', node, rfl, rfl, rfl, h⟩

/-- The texts of a child, seen from the node, stand in document order there as well. -/
theorem pairwise_map_inside {node child : Node} {segment : Segment}
    (hchild : node.child? segment = some child)
    (h : child.texts.Pairwise fun first second => child.Precedes first.path second.path) :
    (child.texts.map (·.inside segment)).Pairwise fun first second =>
      node.Precedes first.path second.path := by
  rw [List.pairwise_map]
  exact h.imp fun hprecedes => hprecedes.inside hchild

mutual

/-- The texts of a structure stand in document order. -/
theorem pairwise_texts : ∀ {node : Node}, node.Distinct →
    node.texts.Pairwise fun first second => node.Precedes first.path second.path
  | .scalar v, _ => by
    cases v <;> simp [texts]
  | .map entries, hnode => pairwise_textsOfEntries [] entries hnode hnode.2
  | .list items, hnode => pairwise_textsOfItems [] items hnode

/-- The entries of a map after some others. -/
theorem pairwise_textsOfEntries : ∀ (before entries : List (String × Node)),
    (Node.map (before ++ entries)).Distinct → EntriesDistinct entries →
      (textsOfEntries entries).Pairwise fun first second =>
        (Node.map (before ++ entries)).Precedes first.path second.path
  | _, [], _, _ => List.Pairwise.nil
  | before, (key, child) :: rest, hnode, hentries => by
    have hchild : (Node.map (before ++ (key, child) :: rest)).child? (.key key) = some child :=
      Entries.get?_of_mem hnode.1 (by simp)
    have hassoc : before ++ (key, child) :: rest = (before ++ [(key, child)]) ++ rest := by simp
    rw [textsOfEntries, List.pairwise_append]
    refine ⟨pairwise_map_inside hchild (pairwise_texts hentries.1), ?_, ?_⟩
    · rw [hassoc] at hnode ⊢
      exact pairwise_textsOfEntries _ rest hnode hentries.2
    · intro first hfirst second hsecond
      obtain ⟨placed, -, rfl⟩ := List.mem_map.1 hfirst
      obtain ⟨name, _, other, hmem, -, rfl⟩ := exists_of_mem_textsOfEntries hentries.2 _ hsecond
      refine ChildBefore.precedes ?_ _ _
      have hname : [name].Sublist (Entries.keys rest) :=
        List.singleton_sublist.2 (List.mem_map.2 ⟨_, hmem, rfl⟩)
      have hkeys : Entries.keys (before ++ (key, child) :: rest) =
          Entries.keys before ++ key :: Entries.keys rest := by
        simp [Entries.keys]
      change [key, name].Sublist (Entries.keys (before ++ (key, child) :: rest))
      rw [hkeys]
      exact (hname.cons_cons key).trans (List.sublist_append_right _ _)

/-- The items of a list after some others. -/
theorem pairwise_textsOfItems : ∀ (before items : List Node), ItemsDistinct items →
    (textsOfItems before.length items).Pairwise fun first second =>
      (Node.list (before ++ items)).Precedes first.path second.path
  | _, [], _ => List.Pairwise.nil
  | before, item :: rest, hitems => by
    have hchild : (Node.list (before ++ item :: rest)).child? (.index before.length) =
        some item := by
      simp [child?]
    have hassoc : before ++ item :: rest = (before ++ [item]) ++ rest := by simp
    have hlength : before.length + 1 = (before ++ [item]).length := by simp
    rw [textsOfItems, List.pairwise_append]
    refine ⟨pairwise_map_inside hchild (pairwise_texts hitems.1), ?_, ?_⟩
    · rw [hassoc, hlength]
      exact pairwise_textsOfItems _ rest hitems.2
    · intro first hfirst second hsecond
      obtain ⟨placed, -, rfl⟩ := List.mem_map.1 hfirst
      obtain ⟨i, _, other, -, -, rfl⟩ := exists_of_mem_textsOfItems hitems.2 _ _ hsecond
      refine ChildBefore.precedes ?_ _ _
      change before.length < before.length + 1 + i
      omega

end

end Placeholder.Node
