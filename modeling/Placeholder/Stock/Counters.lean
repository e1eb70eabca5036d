/-!
# Counters

A state for macros and modifiers that count their calls: any number of counters, each from zero.
-/

namespace Placeholder

/-- The values of the counters. -/
structure Counters where
  counts : List Nat := []
  deriving DecidableEq, Inhabited

/-- Which counter. -/
abbrev CounterId := Nat

namespace Counters

/-- A new counter. -/
def allocate (counters : Counters) : CounterId × Counters :=
  (counters.counts.length, ⟨counters.counts ++ [0]⟩)

/-- The value of a counter, and the counters after it is advanced. -/
def advance (counters : Counters) (id : CounterId) : Nat × Counters :=
  let count := counters.counts[id]?.getD 0
  (count, ⟨counters.counts.set id (count + 1)⟩)

/-- Advancing a counter adds one to it and leaves every other counter alone. -/
theorem getElem?_advance {counters : Counters} {other : CounterId} {n : Nat}
    (hn : counters.counts[other]? = some n) (id : CounterId) :
    (counters.advance id).2.counts[other]? = some (n + if id = other then 1 else 0) := by
  obtain ⟨hlt, hget⟩ := List.getElem?_eq_some_iff.1 hn
  by_cases h : id = other
  · subst h
    simp [advance, hlt, hget]
  · simp [advance, hn, h]

end Counters

end Placeholder
