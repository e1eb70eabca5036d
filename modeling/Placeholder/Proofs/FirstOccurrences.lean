import Mathlib.Data.List.Induction
import Mathlib.Data.List.Nodup
import Placeholder.Validation

/-!
# First occurrences

What it means that one list has the names of another, each once and in the order in which they come
first (`ListsOnce`).  At most one list does so (`ListsOnce.unique`), and `firstOccurrences` computes
it (`listsOnce_firstOccurrences`).
-/

namespace Placeholder

/-- The second list has the names of the first, and where a name stands before another one, it has
also come first before it. -/
structure ListsOnce (names used : List String) : Prop where
  mem_iff (name : String) : name ∈ used ↔ name ∈ names
  order : used.Pairwise fun first second => names.idxOf first < names.idxOf second

/-- No name comes first before itself. -/
theorem ListsOnce.nodup {names used : List String} (h : ListsOnce names used) : used.Nodup := by
  refine h.order.imp fun hlt heq => ?_
  rw [heq] at hlt
  exact Nat.lt_irrefl _ hlt

theorem ListsOnce.nil : ListsOnce [] [] where
  mem_iff _ := Iff.rfl
  order := List.Pairwise.nil

/-- One more name goes to the end, unless it has come before. -/
theorem ListsOnce.concat {names used : List String} (h : ListsOnce names used) (name : String) :
    ListsOnce (names ++ [name]) (if name ∈ used then used else used ++ [name]) := by
  have hbefore : ∀ other ∈ used, (names ++ [name]).idxOf other = names.idxOf other :=
    fun other hother => List.idxOf_append_of_mem ((h.mem_iff other).1 hother)
  have horder : used.Pairwise fun first second =>
      (names ++ [name]).idxOf first < (names ++ [name]).idxOf second := by
    refine h.order.imp_of_mem fun hfirst hsecond hlt => ?_
    rw [hbefore _ hfirst, hbefore _ hsecond]
    exact hlt
  by_cases hname : name ∈ used
  · rw [if_pos hname]
    refine ⟨fun other => ?_, horder⟩
    have hother : other = name → other ∈ names := fun heq => heq ▸ (h.mem_iff name).1 hname
    rw [h.mem_iff, List.mem_append, List.mem_singleton]
    exact ⟨.inl, fun hmem => hmem.elim id hother⟩
  · rw [if_neg hname]
    have hnew : name ∉ names := fun hmem => hname ((h.mem_iff name).2 hmem)
    refine ⟨fun other => ?_, ?_⟩
    · rw [List.mem_append, List.mem_append, h.mem_iff]
    · rw [List.pairwise_append]
      refine ⟨horder, List.pairwise_singleton _ _, fun other hother last hlast => ?_⟩
      have hlt : names.idxOf other < names.length :=
        List.idxOf_lt_length_of_mem ((h.mem_iff other).1 hother)
      rw [List.mem_singleton.1 hlast, hbefore other hother, List.idxOf_append_of_notMem hnew]
      omega

/-- There is only one such list. -/
theorem ListsOnce.unique {names used others : List String} (h : ListsOnce names used)
    (hothers : ListsOnce names others) : used = others := by
  have hperm : used.Perm others := by
    rw [List.perm_ext_iff_of_nodup h.nodup hothers.nodup]
    intro name
    rw [h.mem_iff, hothers.mem_iff]
  apply hperm.eq_of_pairwise _ h.order hothers.order
  intro first second _ _ hlt hgt
  exact absurd hlt (Nat.lt_asymm hgt)

theorem firstOccurrences_concat (names : List String) (name : String) :
    firstOccurrences (names ++ [name]) =
      if name ∈ firstOccurrences names then firstOccurrences names
      else firstOccurrences names ++ [name] := by
  rw [firstOccurrences, List.foldl_append]
  rfl

theorem listsOnce_firstOccurrences (names : List String) :
    ListsOnce names (firstOccurrences names) := by
  induction names using List.reverseRecOn with
  | nil => exact .nil
  | append_singleton names name ih =>
    rw [firstOccurrences_concat]
    exact ih.concat name

end Placeholder
