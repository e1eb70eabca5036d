import Placeholder.Proofs.Shape.Choice

/-!
# Maps in the order of their keys

The entries of a map are put in order one by one.  What comes out are the same entries
(`mem_sortEntries`), in order if any two of the keys are in order one way or the other
(`pairwise_sortEntries`), and entries in order stay as they are (`sortEntries_of_pairwise`).  So it
does not matter in which order they come (`sortEntries_eq_of_perm`).

Keys that can be read are in order one way or the other as long as they are different
(`keyBefore_or_keyBefore`): texts always are, and variants are by their places in the declaration.
-/

namespace Placeholder

/-! ## Putting entries in order -/

section

variable {before : String → String → Bool}

/-- The entries are in order. -/
def InOrder (before : String → String → Bool) (entries : List (String × Datum)) : Prop :=
  entries.Pairwise fun first second => before first.1 second.1 = true

theorem perm_insertSorted (entry : String × Datum) (entries : List (String × Datum)) :
    (insertSorted before entry entries).Perm (entry :: entries) := by
  induction entries with
  | nil => exact .refl _
  | cons first rest ih =>
    rw [insertSorted]
    split
    · exact .refl _
    · exact (ih.cons first).trans (.swap entry first rest)

theorem perm_sortEntries (entries : List (String × Datum)) :
    (sortEntries before entries).Perm entries := by
  induction entries with
  | nil => exact .refl _
  | cons first rest ih => exact (perm_insertSorted first _).trans (ih.cons first)

theorem mem_insertSorted {entry other : String × Datum} {entries : List (String × Datum)} :
    other ∈ insertSorted before entry entries ↔ other = entry ∨ other ∈ entries :=
  (perm_insertSorted entry entries).mem_iff.trans List.mem_cons

theorem mem_sortEntries {entry : String × Datum} {entries : List (String × Datum)} :
    entry ∈ sortEntries before entries ↔ entry ∈ entries :=
  (perm_sortEntries entries).mem_iff

theorem sortEntries_of_pairwise {entries : List (String × Datum)} (h : InOrder before entries) :
    sortEntries before entries = entries := by
  induction entries with
  | nil => rfl
  | cons first rest ih =>
    obtain ⟨hfirst, hrest⟩ := List.pairwise_cons.1 h
    change insertSorted before first (sortEntries before rest) = _
    rw [ih hrest]
    cases rest with
    | nil => rfl
    | cons second rest => exact if_pos (hfirst second List.mem_cons_self)

variable (htrans : ∀ a b c, before a b = true → before b c = true → before a c = true)

include htrans

theorem pairwise_insertSorted {entry : String × Datum} {entries : List (String × Datum)}
    (h : InOrder before entries)
    (hentry : ∀ other ∈ entries, before entry.1 other.1 = true ∨ before other.1 entry.1 = true) :
    InOrder before (insertSorted before entry entries) := by
  induction entries with
  | nil => exact List.pairwise_singleton _ _
  | cons first rest ih =>
    obtain ⟨hfirst, hrest⟩ := List.pairwise_cons.1 h
    rw [insertSorted]
    split
    · next hbefore =>
      refine List.pairwise_cons.2 ⟨fun other hother => ?_, h⟩
      rcases List.mem_cons.1 hother with rfl | hother
      · exact hbefore
      · exact htrans _ _ _ hbefore (hfirst other hother)
    · next hbefore =>
      have hafter : before first.1 entry.1 = true :=
        (hentry first List.mem_cons_self).resolve_left hbefore
      refine List.pairwise_cons.2 ⟨fun other hother => ?_, ?_⟩
      · rcases mem_insertSorted.1 hother with rfl | hother
        · exact hafter
        · exact hfirst other hother
      · exact ih hrest fun other hother => hentry other (.tail _ hother)

theorem pairwise_sortEntries {entries : List (String × Datum)}
    (h : entries.Pairwise fun first second =>
      before first.1 second.1 = true ∨ before second.1 first.1 = true) :
    InOrder before (sortEntries before entries) := by
  induction entries with
  | nil => exact List.Pairwise.nil
  | cons first rest ih =>
    obtain ⟨hfirst, hrest⟩ := List.pairwise_cons.1 h
    apply pairwise_insertSorted htrans (ih hrest)
    intro other hother
    exact hfirst other (mem_sortEntries.1 hother)

/-- The order in which entries are put in order does not matter, if no two have the same key. -/
theorem sortEntries_eq_of_perm (hirrefl : ∀ a, before a a = false)
    {entries others : List (String × Datum)} (h : entries.Perm others)
    (hpairs : entries.Pairwise fun first second =>
      before first.1 second.1 = true ∨ before second.1 first.1 = true) :
    sortEntries before entries = sortEntries before others := by
  have hothers : others.Pairwise fun first second =>
      before first.1 second.1 = true ∨ before second.1 first.1 = true :=
    (h.pairwise_iff fun hpair => hpair.symm).1 hpairs
  refine List.Perm.eq_of_pairwise ?_ (pairwise_sortEntries htrans hpairs)
    (pairwise_sortEntries htrans hothers)
    ((perm_sortEntries entries).trans (h.trans (perm_sortEntries others).symm))
  intro first second _ _ hbefore hafter
  have hself := htrans _ _ _ hbefore hafter
  rw [hirrefl] at hself
  cases hself

end

/-! ## Keys -/

section

variable {ν : Type} {schema : Schema ν} {shape : KeyShape ν} {first second third : String}

theorem keyBefore_trans (h : keyBefore schema shape first second = true)
    (h' : keyBefore schema shape second third = true) :
    keyBefore schema shape first third = true := by
  have htexts : decide (first < second) = true → decide (second < third) = true →
      decide (first < third) = true := fun h h' =>
    decide_eq_true (String.lt_trans (of_decide_eq_true h) (of_decide_eq_true h'))
  cases shape with
  | string => exact htexts h h'
  | integer type => exact htexts h h'
  | declared name =>
    unfold keyBefore at h h' ⊢
    dsimp only at h h' ⊢
    cases hdeclared : schema name with
    | choice title variants =>
      rw [hdeclared] at h h'
      exact decide_eq_true (Nat.lt_trans (of_decide_eq_true h) (of_decide_eq_true h'))
    | record | series | marker =>
      rw [hdeclared] at h h'
      exact htexts h h'

theorem keyBefore_irrefl (key : String) : keyBefore schema shape key key = false := by
  have htext : decide (key < key) = false := decide_eq_false (String.lt_irrefl key)
  cases shape with
  | string => exact htext
  | integer type => exact htext
  | declared name =>
    unfold keyBefore
    dsimp only
    cases schema name with
    | choice title variants => exact decide_eq_false (Nat.lt_irrefl _)
    | record | series | marker => exact htext

theorem find?_of_findVariant {variants : List (Variant ν)} {variant : Variant ν} {name : String}
    (h : findVariant variants name = .ok variant) :
    variants.find? (·.name = name) = some variant := by
  rw [findVariant] at h
  split at h
  · next found hfound => exact hfound.trans (congrArg some (Except.ok.inj h))
  · cases h

/-- A key of a map whose keys are declared is the name of a variant. -/
theorem exists_choice_of_readKey {name : ν} {key : String}
    (h : readKey schema (.declared name) key = .ok key) :
    ∃ title variants, schema name = .choice title variants ∧
      key ∈ variants.map (·.name) := by
  rw [readKey] at h
  cases hdeclared : schema name with
  | choice title variants =>
    rw [hdeclared] at h
    obtain ⟨datum, hvariant, -⟩ := bind_eq_ok_iff.1 h
    obtain ⟨variant, hfound, -⟩ := bind_eq_ok_iff.1 hvariant
    have hmem := List.mem_of_find?_eq_some (find?_of_findVariant hfound)
    exact ⟨title, variants, rfl, List.mem_map.2
      ⟨variant, hmem, Variant.name_of_find? (find?_of_findVariant hfound)⟩⟩
  | record | series | marker =>
    rw [hdeclared] at h
    cases h

theorem keyBefore_or_keyBefore (hfirst : readKey schema shape first = .ok first)
    (hsecond : readKey schema shape second = .ok second) (hne : first ≠ second) :
    keyBefore schema shape first second = true ∨ keyBefore schema shape second first = true := by
  cases shape with
  | string =>
    by_cases hlt : first < second
    · exact .inl (decide_eq_true hlt)
    · have hle : second ≤ first := String.not_lt.1 hlt
      exact .inr (decide_eq_true (Std.lt_of_le_of_ne hle hne.symm))
  | integer type => cases hfirst
  | declared name =>
    obtain ⟨title, variants, hdeclared, hmem⟩ := exists_choice_of_readKey hfirst
    have hplaces : (variants.map (·.name)).idxOf first ≠ (variants.map (·.name)).idxOf second :=
      fun heq => hne ((List.idxOf_inj hmem).1 heq)
    unfold keyBefore
    simp only [hdeclared]
    rcases Nat.lt_or_gt_of_ne hplaces with hlt | hgt
    · exact .inl (decide_eq_true hlt)
    · exact .inr (decide_eq_true hgt)

/-- The entries of a map with different keys, once they are read, are in order one way or the
other. -/
theorem pairwise_of_readEntries {inner : Shape ν} {path : Path} {entries : List (String × Node)}
    {data : List (String × Datum)} (hkeys : Entries.Distinct entries)
    (h : readEntries schema shape inner path entries = .ok data) :
    data.Pairwise fun first second => keyBefore schema shape first.1 second.1 = true ∨
      keyBefore schema shape second.1 first.1 = true := by
  have hread := forall₂_of_readEntries h
  have hnames := map_fst_eq_of_forall₂ (hread.imp fun _ _ hpair => hpair.1)
  have hdistinct : data.Pairwise fun first second => first.1 ≠ second.1 := by
    rw [← List.pairwise_map (f := Prod.fst), ← hnames]
    exact hkeys
  have hread : ∀ pair ∈ data, readKey schema shape pair.1 = .ok pair.1 := by
    intro pair hpair
    obtain ⟨entry, -, hname, hkey, -⟩ := exists_of_mem_forall₂ hread hpair
    rw [hname]
    exact hkey
  refine hdistinct.imp_of_mem fun hfirst hsecond hne => ?_
  exact keyBefore_or_keyBefore (hread _ hfirst) (hread _ hsecond) hne

end

end Placeholder
