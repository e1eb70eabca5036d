import Placeholder.Node.Distinct
import Placeholder.Path

/-!
# Places in structures

Where a path leads in a structure, and the texts at its string leaves with the paths to them.

Main statement: in a structure without repeated keys, the path that comes with a text leads to that
text (`follow?_of_mem_texts`).
-/

namespace Placeholder.Node

/-- The child that a segment leads to. -/
def child? : Node → Segment → Option Node
  | .map entries, .key name => Entries.get? entries name
  | .list items, .index position => items[position]?
  | _, _ => none

/-- The node that a path leads to. -/
def follow? (node : Node) : Path → Option Node
  | [] => some node
  | segment :: rest => (node.child? segment).bind fun child => child.follow? rest

/-! ## Texts -/

/-- A text and the path to it. -/
structure PlacedText where
  path : Path
  text : String
  deriving DecidableEq

/-- The text seen from one step further up. -/
def PlacedText.inside (placed : PlacedText) (segment : Segment) : PlacedText :=
  { placed with path := segment :: placed.path }

mutual

/-- The texts at the string leaves, in document order. -/
def texts : Node → List PlacedText
  | .scalar (.string text) => [⟨[], text⟩]
  | .scalar _ => []
  | .map entries => textsOfEntries entries
  | .list items => textsOfItems 0 items

/-- The texts in the entries of a map, one entry after the other. -/
def textsOfEntries : List (String × Node) → List PlacedText
  | [] => []
  | (key, child) :: rest => (texts child).map (·.inside (.key key)) ++ textsOfEntries rest

/-- The texts in the items of a list from a position on, one item after the other. -/
def textsOfItems (position : Nat) : List Node → List PlacedText
  | [] => []
  | item :: rest =>
    (texts item).map (·.inside (.index position)) ++ textsOfItems (position + 1) rest

end

/-- What a placed text says of a structure: its path leads to it. -/
def Holds (node : Node) (placed : PlacedText) : Prop :=
  node.follow? placed.path = some (.scalar (.string placed.text))

theorem holds_inside {node child : Node} {segment : Segment} {placed : PlacedText}
    (hc : node.child? segment = some child) (h : child.Holds placed) :
    node.Holds (placed.inside segment) := by
  rw [Holds, PlacedText.inside, follow?, hc]
  exact h

mutual

theorem follow?_of_mem_texts : ∀ {node : Node}, node.Distinct → ∀ placed ∈ node.texts,
    node.Holds placed
  | .scalar v, _, placed, h => by
    cases v <;> simp [texts] at h
    subst h
    rfl
  | .map entries, hd, placed, h => by
    obtain ⟨key, child, other, hmem, ho, rfl⟩ := exists_of_mem_textsOfEntries hd.2 placed h
    exact holds_inside (Entries.get?_of_mem hd.1 hmem) ho
  | .list items, hd, placed, h => by
    obtain ⟨i, child, other, hi, ho, rfl⟩ := exists_of_mem_textsOfItems hd 0 placed h
    refine holds_inside ?_ ho
    simpa [child?] using hi

theorem exists_of_mem_textsOfEntries : ∀ {entries : List (String × Node)},
    EntriesDistinct entries → ∀ placed ∈ textsOfEntries entries,
      ∃ key child other, (key, child) ∈ entries ∧ child.Holds other ∧
        placed = other.inside (.key key)
  | [], _, _, h => by simp [textsOfEntries] at h
  | (key, child) :: rest, hd, placed, h => by
    rcases List.mem_append.1 h with h | h
    · obtain ⟨other, ho, rfl⟩ := List.mem_map.1 h
      exact ⟨key, child, other, by simp, follow?_of_mem_texts hd.1 other ho, rfl⟩
    · obtain ⟨k, c, other, hmem, ho, rfl⟩ := exists_of_mem_textsOfEntries hd.2 placed h
      exact ⟨k, c, other, List.mem_cons_of_mem _ hmem, ho, rfl⟩

theorem exists_of_mem_textsOfItems : ∀ {items : List Node}, ItemsDistinct items →
    ∀ position, ∀ placed ∈ textsOfItems position items,
      ∃ (i : Nat) (child : Node) (other : PlacedText),
        items[i]? = some child ∧ child.Holds other ∧ placed = other.inside (.index (position + i))
  | [], _, _, _, h => by simp [textsOfItems] at h
  | item :: rest, hd, position, placed, h => by
    rcases List.mem_append.1 h with h | h
    · obtain ⟨other, ho, rfl⟩ := List.mem_map.1 h
      exact ⟨0, item, other, rfl, follow?_of_mem_texts hd.1 other ho, rfl⟩
    · obtain ⟨i, c, other, hi, ho, rfl⟩ := exists_of_mem_textsOfItems hd.2 (position + 1) placed h
      exact ⟨i + 1, c, other, by simpa using hi, ho, by rw [Nat.add_right_comm, Nat.add_assoc]⟩

end

end Placeholder.Node
