/-!
# Runs at the start of a list

What `takeWhile` and `dropWhile` give: all of the first part has the property, the second part does
not start with it, and any division of that kind is theirs.
-/

namespace Placeholder.Text

variable {α : Type u} {p : α → Bool}

theorem forall_mem_takeWhile {as : List α} : ∀ a ∈ as.takeWhile p, p a = true :=
  fun _ h => List.all_eq_true.1 List.all_takeWhile _ h

theorem head?_dropWhile_eq_false {as : List α} : ∀ a ∈ (as.dropWhile p).head?, p a = false := by
  induction as with
  | nil => simp
  | cons a as ih =>
    by_cases h : p a = true
    · rwa [List.dropWhile_cons_of_pos h]
    · rw [List.dropWhile_cons_of_neg h]
      simpa using h

theorem takeWhile_eq_nil_of_head? {as : List α} (h : ∀ a ∈ as.head?, p a = false) :
    as.takeWhile p = [] := by
  cases as with
  | nil => rfl
  | cons a as => exact List.takeWhile_cons_of_neg (by simp [h a rfl])

theorem dropWhile_eq_self_of_head? {as : List α} (h : ∀ a ∈ as.head?, p a = false) :
    as.dropWhile p = as := by
  cases as with
  | nil => rfl
  | cons a as => exact List.dropWhile_cons_of_neg (by simp [h a rfl])

theorem takeWhile_append_of_head? {as bs : List α} (ha : ∀ a ∈ as, p a = true)
    (hb : ∀ b ∈ bs.head?, p b = false) : (as ++ bs).takeWhile p = as := by
  rw [List.takeWhile_append_of_pos ha, takeWhile_eq_nil_of_head? hb, List.append_nil]

theorem dropWhile_append_of_head? {as bs : List α} (ha : ∀ a ∈ as, p a = true)
    (hb : ∀ b ∈ bs.head?, p b = false) : (as ++ bs).dropWhile p = bs := by
  rw [List.dropWhile_append_of_pos ha, dropWhile_eq_self_of_head? hb]

theorem exists_run (p : α → Bool) (as : List α) :
    ∃ run rest, as = run ++ rest ∧ (∀ a ∈ run, p a = true) ∧ ∀ a ∈ rest.head?, p a = false :=
  ⟨as.takeWhile p, as.dropWhile p, (List.takeWhile_append_dropWhile ..).symm,
    forall_mem_takeWhile, head?_dropWhile_eq_false⟩

/-- Two divisions of a list into a run and a rest that does not go on with it are the same. -/
theorem run_append_inj {run run' rest rest' : List α} (h : run ++ rest = run' ++ rest')
    (hrun : ∀ a ∈ run, p a = true) (hrest : ∀ a ∈ rest.head?, p a = false)
    (hrun' : ∀ a ∈ run', p a = true) (hrest' : ∀ a ∈ rest'.head?, p a = false) :
    run = run' ∧ rest = rest' := by
  have htake := congrArg (List.takeWhile p) h
  have hdrop := congrArg (List.dropWhile p) h
  rw [takeWhile_append_of_head? hrun hrest, takeWhile_append_of_head? hrun' hrest'] at htake
  rw [dropWhile_append_of_head? hrun hrest, dropWhile_append_of_head? hrun' hrest'] at hdrop
  exact ⟨htake, hdrop⟩

end Placeholder.Text
