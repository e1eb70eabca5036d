import Placeholder.Entries

/-!
# Registries

Items under names, in the order of their registration.  A name is given once and for all: a second
item under it is refused, and the registry stays as it was (`register_of_contains`).
-/

namespace Placeholder

/-- Items under distinct names. -/
structure Registry (α : Type u) where
  entries : Entries α
  distinct : Entries.Distinct entries

namespace Registry

variable {α : Type u}

/-- Nothing registered. -/
def empty : Registry α := ⟨[], List.nodup_nil⟩

/-- The names, in the order of their registration. -/
def names (registry : Registry α) : List String := Entries.keys registry.entries

/-- The item under a name. -/
def get? (registry : Registry α) (name : String) : Option α := Entries.get? registry.entries name

/-- Whether a name is taken. -/
def contains (registry : Registry α) (name : String) : Bool := registry.names.contains name

/-- Whether the item is registered, which it is unless the name is taken, and the registry that this
leaves. -/
def register (registry : Registry α) (name : String) (item : α) : Bool × Registry α :=
  if registry.contains name then (false, registry)
  else
    (true,
      ⟨Entries.insert registry.entries name item, Entries.distinct_insert registry.distinct ..⟩)

section

variable {registry : Registry α} {name : String}

/-- A refusal leaves the registry as it was. -/
theorem register_of_contains (h : registry.contains name = true) (item : α) :
    registry.register name item = (false, registry) :=
  if_pos h

theorem register_of_contains_eq_false (h : registry.contains name = false) (item : α) :
    registry.register name item =
      (true, ⟨Entries.insert registry.entries name item,
        Entries.distinct_insert registry.distinct ..⟩) :=
  if_neg (Bool.eq_false_iff.1 h)

end

end Registry

end Placeholder
