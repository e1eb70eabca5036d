import Mathlib.Data.List.Forall2
import Placeholder.Node.Place

/-!
# Structures with their texts replaced

`Node.refill` puts values in the places of the texts of a structure, one after the other in document
order, without saying where the values come from.

* Nothing but the texts changes: at every place there is the same kind of node with the same keys or
  the same length, and a leaf that is no string stays as it is (`rel_keepsShape_refill`).
* With its own texts as the values the structure is as it was (`refill_ownValues`).
* In a structure without repeated keys each value is found where its text was
  (`forall₂_follow?_refill`), and there are no repeated keys afterwards (`distinct_refill`).
-/

namespace Placeholder.Node

mutual

/-- The structure with the values in the places of its texts.  A text for which there is no value
stays. -/
def refill : Node → List Value → Node
  | .scalar (.string text), values => .scalar (values.headD (.string text))
  | .scalar value, _ => .scalar value
  | .map entries, values => .map (refillEntries entries values)
  | .list items, values => .list (refillItems items values)

/-- The entries of a map, one after the other.  Each takes as many values as it has texts. -/
def refillEntries : List (String × Node) → List Value → List (String × Node)
  | [], _ => []
  | (key, child) :: rest, values =>
    (key, refill child (values.take child.texts.length)) ::
      refillEntries rest (values.drop child.texts.length)

/-- The items of a list, one after the other.  Each takes as many values as it has texts. -/
def refillItems : List Node → List Value → List Node
  | [], _ => []
  | item :: rest, values =>
    refill item (values.take item.texts.length) ::
      refillItems rest (values.drop item.texts.length)

end

/-! ## Shape -/

/-- What may become of a node: a string leaf is a scalar leaf afterwards, any other leaf stays, and
a map keeps its keys in their order, a list its length. -/
inductive KeepsShape : Node → Node → Prop where
  | text (text : String) (value : Value) : KeepsShape (.scalar (.string text)) (.scalar value)
  | leaf (value : Value) (hvalue : value.isString = false) :
      KeepsShape (.scalar value) (.scalar value)
  | map {entries others : List (String × Node)}
      (hkeys : Entries.keys others = Entries.keys entries) :
      KeepsShape (.map entries) (.map others)
  | list {items others : List Node} (hlength : others.length = items.length) :
      KeepsShape (.list items) (.list others)

theorem keys_refillEntries (entries : List (String × Node)) (values : List Value) :
    Entries.keys (refillEntries entries values) = Entries.keys entries := by
  induction entries generalizing values with
  | nil => rfl
  | cons entry rest ih =>
    obtain ⟨key, child⟩ := entry
    have hrest := ih (values.drop child.texts.length)
    simp only [Entries.keys] at hrest
    simp only [refillEntries, Entries.keys, List.map_cons, hrest]

theorem entries_distinct_refillEntries {entries : List (String × Node)}
    (hentries : Entries.Distinct entries) (values : List Value) :
    Entries.Distinct (refillEntries entries values) := by
  rw [Entries.Distinct, keys_refillEntries]
  exact hentries

theorem length_refillItems (items : List Node) (values : List Value) :
    (refillItems items values).length = items.length := by
  induction items generalizing values with
  | nil => rfl
  | cons item rest ih => rw [refillItems, List.length_cons, List.length_cons, ih]

theorem keepsShape_refill (node : Node) (values : List Value) :
    KeepsShape node (node.refill values) := by
  cases node with
  | scalar v =>
    cases v with
    | string text => exact .text text _
    | integer i => exact .leaf _ rfl
    | float x => exact .leaf _ rfl
    | boolean b => exact .leaf _ rfl
    | null => exact .leaf _ rfl
  | map entries => exact .map (keys_refillEntries entries values)
  | list items => exact .list (length_refillItems items values)

theorem get?_refillEntries (entries : List (String × Node)) (values : List Value) (key : String) :
    ∃ part, Entries.get? (refillEntries entries values) key =
      (Entries.get? entries key).map (·.refill part) := by
  induction entries generalizing values with
  | nil => exact ⟨[], rfl⟩
  | cons entry rest ih =>
    obtain ⟨name, child⟩ := entry
    rw [refillEntries, Entries.get?, List.lookup_cons, Entries.get?, List.lookup_cons]
    cases hname : key == name with
    | true => exact ⟨values.take child.texts.length, rfl⟩
    | false => exact ih (values.drop child.texts.length)

theorem getElem?_refillItems (items : List Node) (values : List Value) (position : Nat) :
    ∃ part, (refillItems items values)[position]? = items[position]?.map (·.refill part) := by
  induction items generalizing values position with
  | nil => exact ⟨[], rfl⟩
  | cons item rest ih =>
    cases position with
    | zero => exact ⟨values.take item.texts.length, rfl⟩
    | succ position =>
      rw [refillItems, List.getElem?_cons_succ, List.getElem?_cons_succ]
      exact ih (values.drop item.texts.length) position

/-- A child is refilled with some of the values. -/
theorem child?_refill (node : Node) (values : List Value) (segment : Segment) :
    ∃ part, (node.refill values).child? segment = (node.child? segment).map (·.refill part) := by
  cases node with
  | scalar v => cases v <;> exact ⟨[], rfl⟩
  | map entries =>
    cases segment with
    | key name => exact get?_refillEntries entries values name
    | index position => exact ⟨[], rfl⟩
  | list items =>
    cases segment with
    | key name => exact ⟨[], rfl⟩
    | index position => exact getElem?_refillItems items values position

/-- At every place there is the node that was there, refilled with some of the values. -/
theorem follow?_refill (node : Node) (values : List Value) (path : Path) :
    ∃ part, (node.refill values).follow? path = (node.follow? path).map (·.refill part) := by
  induction path generalizing node values with
  | nil => exact ⟨values, rfl⟩
  | cons segment path ih =>
    obtain ⟨part, hchild⟩ := child?_refill node values segment
    rw [follow?, follow?, hchild]
    cases node.child? segment with
    | none => exact ⟨[], rfl⟩
    | some child => exact ih child part

theorem rel_keepsShape_refill (node : Node) (values : List Value) (path : Path) :
    Option.Rel KeepsShape (node.follow? path) ((node.refill values).follow? path) := by
  obtain ⟨part, hfollow⟩ := follow?_refill node values path
  rw [hfollow]
  cases node.follow? path with
  | none => exact .none
  | some inner => exact .some (keepsShape_refill inner part)

/-! ## The same texts -/

/-- The texts as values. -/
def ownValues (texts : List PlacedText) : List Value :=
  texts.map fun placed => .string placed.text

/-- A child takes its own texts, and its own texts are not among those that are left. -/
theorem ownValues_inside_append (texts rest : List PlacedText) (segment : Segment) :
    (ownValues (texts.map (·.inside segment) ++ rest)).take texts.length = ownValues texts ∧
      (ownValues (texts.map (·.inside segment) ++ rest)).drop texts.length = ownValues rest := by
  have hlength : (ownValues texts).length = texts.length := List.length_map _
  have happend : ownValues (texts.map (·.inside segment) ++ rest) =
      ownValues texts ++ ownValues rest := by
    rw [ownValues, List.map_append, List.map_map]
    rfl
  rw [happend]
  exact ⟨List.take_left' hlength, List.drop_left' hlength⟩

mutual

/-- A structure that is refilled with its own texts stays as it is. -/
theorem refill_ownValues : ∀ node : Node, node.refill (ownValues node.texts) = node
  | .scalar v => by
    cases v <;> rfl
  | .map entries => congrArg Node.map (refillEntries_ownValues entries)
  | .list items => congrArg Node.list (refillItems_ownValues 0 items)

theorem refillEntries_ownValues : ∀ entries : List (String × Node),
    refillEntries entries (ownValues (textsOfEntries entries)) = entries
  | [] => rfl
  | (key, child) :: rest => by
    obtain ⟨htake, hdrop⟩ := ownValues_inside_append child.texts (textsOfEntries rest) (.key key)
    rw [textsOfEntries, refillEntries, htake, hdrop, refill_ownValues child,
      refillEntries_ownValues rest]

theorem refillItems_ownValues : ∀ (position : Nat) (items : List Node),
    refillItems items (ownValues (textsOfItems position items)) = items
  | _, [] => rfl
  | position, item :: rest => by
    obtain ⟨htake, hdrop⟩ := ownValues_inside_append item.texts (textsOfItems (position + 1) rest)
      (.index position)
    rw [textsOfItems, refillItems, htake, hdrop, refill_ownValues item,
      refillItems_ownValues (position + 1) rest]

end

/-! ## Values in their places -/

mutual

theorem distinct_refill : ∀ {node : Node}, node.Distinct → ∀ values, (node.refill values).Distinct
  | .scalar v, _, values => by
    cases v <;> trivial
  | .map _, hnode, values =>
    ⟨entries_distinct_refillEntries hnode.1 values, entriesDistinct_refillEntries hnode.2 values⟩
  | .list items, hnode, values => itemsDistinct_refillItems hnode values

theorem entriesDistinct_refillEntries : ∀ {entries : List (String × Node)},
    EntriesDistinct entries → ∀ values, EntriesDistinct (refillEntries entries values)
  | [], _, _ => trivial
  | _ :: _, hentries, _ =>
    ⟨distinct_refill hentries.1 _, entriesDistinct_refillEntries hentries.2 _⟩

theorem itemsDistinct_refillItems : ∀ {items : List Node},
    ItemsDistinct items → ∀ values, ItemsDistinct (refillItems items values)
  | [], _, _ => trivial
  | _ :: _, hitems, _ => ⟨distinct_refill hitems.1 _, itemsDistinct_refillItems hitems.2 _⟩

end

/-- The value is found at the place of the text. -/
def FoundAt (node : Node) (placed : PlacedText) (value : Value) : Prop :=
  node.follow? placed.path = some (.scalar value)

theorem FoundAt.inside {node child : Node} {segment : Segment} {placed : PlacedText}
    {value : Value} (h : child.FoundAt placed value) (hchild : node.child? segment = some child) :
    node.FoundAt (placed.inside segment) value := by
  rw [FoundAt, PlacedText.inside, follow?, hchild]
  exact h

/-- The values of the texts of a child are as many as the texts, and so are the other values. -/
theorem length_take_drop {texts rest : List PlacedText} {segment : Segment} {values : List Value}
    (h : values.length = (texts.map (·.inside segment) ++ rest).length) :
    (values.take texts.length).length = texts.length ∧
      (values.drop texts.length).length = rest.length := by
  rw [List.length_append, List.length_map] at h
  rw [List.length_take, List.length_drop]
  omega

/-- What holds of the texts of a child with its values and of the texts after them with the other
values holds of all. -/
theorem forall₂_inside_append {R S : PlacedText → Value → Prop} {texts rest : List PlacedText}
    {values : List Value} {segment : Segment}
    (hlift : ∀ placed value, R placed value → S (placed.inside segment) value)
    (htexts : List.Forall₂ R texts (values.take texts.length))
    (hrest : List.Forall₂ S rest (values.drop texts.length)) :
    List.Forall₂ S (texts.map (·.inside segment) ++ rest) values := by
  have hlifted : List.Forall₂ S (texts.map (·.inside segment)) (values.take texts.length) :=
    List.forall₂_map_left_iff.2 (htexts.imp hlift)
  have happend : List.Forall₂ S (texts.map (·.inside segment) ++ rest)
      (values.take texts.length ++ values.drop texts.length) := List.rel_append hlifted hrest
  rwa [List.take_append_drop] at happend

mutual

theorem forall₂_follow?_refill : ∀ {node : Node}, node.Distinct → ∀ {values : List Value},
    values.length = node.texts.length →
      List.Forall₂ (node.refill values).FoundAt node.texts values
  | .scalar v, _, values, hlength => by
    cases v with
    | string text =>
      obtain ⟨value, rfl⟩ := List.length_eq_one_iff.1 hlength
      exact .cons rfl .nil
    | integer | float | boolean | null =>
      obtain rfl := List.length_eq_zero_iff.1 hlength
      exact .nil
  | .map entries, hnode, values, hlength => by
    have hkeys := entries_distinct_refillEntries hnode.1 values
    refine (forall₂_refillEntries hnode.2 hlength).imp fun placed value hfound => ?_
    obtain ⟨key, child, other, hmem, rfl, hother⟩ := hfound
    exact hother.inside (Entries.get?_of_mem hkeys hmem)
  | .list items, hnode, values, hlength => by
    refine (forall₂_refillItems hnode 0 hlength).imp fun placed value hfound => ?_
    obtain ⟨i, item, other, hitem, rfl, hother⟩ := hfound
    rw [Nat.zero_add]
    exact hother.inside hitem

theorem forall₂_refillEntries : ∀ {entries : List (String × Node)}, EntriesDistinct entries →
    ∀ {values : List Value}, values.length = (textsOfEntries entries).length →
      List.Forall₂ (fun placed value => ∃ (key : String) (child : Node) (other : PlacedText),
          (key, child) ∈ refillEntries entries values ∧ placed = other.inside (.key key) ∧
            child.FoundAt other value)
        (textsOfEntries entries) values
  | [], _, values, hlength => by
    obtain rfl := List.length_eq_zero_iff.1 hlength
    exact .nil
  | (key, child) :: rest, hentries, values, hlength => by
    rw [textsOfEntries] at hlength ⊢
    obtain ⟨htake, hdrop⟩ := length_take_drop hlength
    refine forall₂_inside_append (fun placed value hfound => ?_)
      (forall₂_follow?_refill hentries.1 htake)
      ((forall₂_refillEntries hentries.2 hdrop).imp fun placed value hfound => ?_)
    · exact ⟨key, _, placed, List.mem_cons_self, rfl, hfound⟩
    · obtain ⟨name, other, inner, hmem, rfl, hinner⟩ := hfound
      exact ⟨name, other, inner, List.mem_cons_of_mem _ hmem, rfl, hinner⟩

theorem forall₂_refillItems : ∀ {items : List Node}, ItemsDistinct items → ∀ (position : Nat)
    {values : List Value}, values.length = (textsOfItems position items).length →
      List.Forall₂ (fun placed value => ∃ (i : Nat) (item : Node) (other : PlacedText),
          (refillItems items values)[i]? = some item ∧
            placed = other.inside (.index (position + i)) ∧ item.FoundAt other value)
        (textsOfItems position items) values
  | [], _, _, values, hlength => by
    obtain rfl := List.length_eq_zero_iff.1 hlength
    exact .nil
  | item :: rest, hitems, position, values, hlength => by
    rw [textsOfItems] at hlength ⊢
    obtain ⟨htake, hdrop⟩ := length_take_drop hlength
    refine forall₂_inside_append (fun placed value hfound => ?_)
      (forall₂_follow?_refill hitems.1 htake)
      ((forall₂_refillItems hitems.2 (position + 1) hdrop).imp fun placed value hfound => ?_)
    · exact ⟨0, _, placed, rfl, rfl, hfound⟩
    · obtain ⟨i, other, inner, hother, rfl, hinner⟩ := hfound
      refine ⟨i + 1, other, inner, hother, ?_, hinner⟩
      rw [Nat.add_right_comm, Nat.add_assoc]

end

end Placeholder.Node
