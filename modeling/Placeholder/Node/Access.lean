import Placeholder.Fault

/-!
# Handing out children

A list or a map that is taken apart hands out its children one after the other, each with its path.
A list counts the positions.  A map hands out a key first and then the node under it, and keeps the
entry in between; there is no node to hand out before a key has been asked for.
-/

namespace Placeholder

/-- A node and the path to it. -/
structure PlacedNode where
  path : Path
  node : Node

/-- A list that hands out its items: those that are left, and the position of the first of them. -/
structure ItemAccess where
  items : List Node
  position : Nat := 0
  path : Path

/-- A map that hands out its entries: those that are left, and the one whose key has been handed
out and whose node has not. -/
structure EntryAccess where
  entries : List (String × Node)
  pending : Option (String × Node) := none
  path : Path

/-- The next item, and what is left after it. -/
def ItemAccess.next? (access : ItemAccess) : Option (PlacedNode × ItemAccess) :=
  match access.items with
  | [] => none
  | item :: rest =>
    some (⟨access.path.child (.index access.position), item⟩,
      { access with items := rest, position := access.position + 1 })

namespace EntryAccess

/-- The next key, and what is left after it. -/
def nextKey? (access : EntryAccess) : Option (String × EntryAccess) :=
  match access.entries with
  | [] => none
  | (key, child) :: rest =>
    some (key, { access with entries := rest, pending := some (key, child) })

/-- The node under the key that has been handed out, and what is left after it. -/
def nextNode (access : EntryAccess) : Except Fault (PlacedNode × EntryAccess) :=
  match access.pending with
  | some (key, child) =>
    .ok (⟨access.path.child (.key key), child⟩, { access with pending := none })
  | none => .error .valueBeforeKey

end EntryAccess

/-! ## What is left becomes less -/

theorem ItemAccess.sizeOf_lt_of_next? {access rest : ItemAccess} {child : PlacedNode}
    (h : access.next? = some (child, rest)) :
    sizeOf child.node < sizeOf access.items ∧ sizeOf rest.items < sizeOf access.items := by
  unfold next? at h
  split at h
  · cases h
  · next item others hitems =>
    obtain ⟨rfl, rfl⟩ := Prod.mk.inj (Option.some.inj h)
    rw [hitems, List.cons.sizeOf_spec]
    constructor <;> dsimp only <;> omega

theorem EntryAccess.sizeOf_lt_of_next {access held rest : EntryAccess} {key : String}
    {child : PlacedNode} (hkey : access.nextKey? = some (key, held))
    (hnode : held.nextNode = .ok (child, rest)) :
    sizeOf child.node < sizeOf access.entries ∧ sizeOf rest.entries < sizeOf access.entries := by
  unfold nextKey? at hkey
  split at hkey
  · cases hkey
  · next name node others hentries =>
    obtain ⟨rfl, rfl⟩ := Prod.mk.inj (Option.some.inj hkey)
    obtain ⟨rfl, rfl⟩ := Prod.mk.inj (Except.ok.inj hnode)
    rw [hentries, List.cons.sizeOf_spec, Prod.mk.sizeOf_spec]
    constructor <;> dsimp only <;> omega

end Placeholder
