import Placeholder.Node
import Placeholder.Proofs.FirstOccurrences

/-!
# Collecting entries

What entries come to that are inserted one by one, told without the insertions: the keys are those
of the list, each once and in the order in which they come first, and each holds the value that
comes last under it (`Entries.Collects`).

* One more insertion keeps this, with one more entry in the list (`Entries.Collects.insert`), so it
  holds of what a list is collected to (`Entries.collects_ofList`).
* It holds of nothing else (`Entries.Collects.unique`).
* A structure that entries are put into one by one is collected in the same way
  (`Node.foldl_insert_map`), unless it is no map (`Node.foldl_insert_of_isMap_eq_false`).
-/

namespace Placeholder

namespace Entries

variable {α : Type u} {entries : List (String × α)} {built other : Entries α}

/-- The value is the one that comes last under the key. -/
def LastUnder (entries : List (String × α)) (key : String) (value : α) : Prop :=
  ∃ before after, entries = before ++ (key, value) :: after ∧ key ∉ keys after

/-- A map has the keys of a list of entries, each once and in the order in which they come first,
and under each key the value that comes last. -/
structure Collects (entries : List (String × α)) (built : Entries α) : Prop where
  listsOnce : ListsOnce (keys entries) (keys built)
  mem_iff (key : String) (value : α) : (key, value) ∈ built ↔ LastUnder entries key value

theorem keys_concat (entries : List (String × α)) (key : String) (value : α) :
    keys (entries ++ [(key, value)]) = keys entries ++ [key] :=
  List.map_append

theorem get?_eq_some_iff (hentries : Distinct entries) (key : String) (value : α) :
    get? entries key = some value ↔ (key, value) ∈ entries :=
  ⟨mem_of_get?, get?_of_mem hentries⟩

/-- The last of all entries is the last under its key, and under no other key does it count. -/
theorem lastUnder_concat (key : String) (value : α) (name : String) (found : α) :
    LastUnder (entries ++ [(key, value)]) name found ↔
      if name = key then value = found else LastUnder entries name found := by
  constructor
  · rintro ⟨before, after, hsplit, hafter⟩
    rcases List.eq_nil_or_concat' after with rfl | ⟨rest, last, rfl⟩
    · obtain ⟨-, hlast⟩ := List.append_inj' hsplit rfl
      obtain ⟨rfl, rfl⟩ := Prod.mk.inj (List.singleton_inj.1 hlast)
      rw [if_pos rfl]
    · have hassoc : before ++ (name, found) :: (rest ++ [last]) =
          (before ++ (name, found) :: rest) ++ [last] := by simp
      obtain ⟨rfl, hlast⟩ := List.append_inj' (hsplit.trans hassoc) rfl
      obtain rfl := List.singleton_inj.1 hlast
      rw [keys_concat, List.mem_append, List.mem_singleton, not_or] at hafter
      rw [if_neg hafter.2]
      exact ⟨before, rest, rfl, hafter.1⟩
  · intro h
    split at h
    · next hname =>
      subst hname h
      exact ⟨entries, [], rfl, List.not_mem_nil⟩
    · next hname =>
      obtain ⟨before, after, rfl, hafter⟩ := h
      refine ⟨before, after ++ [(key, value)], by simp, ?_⟩
      rw [keys_concat, List.mem_append, List.mem_singleton, not_or]
      exact ⟨hafter, hname⟩

namespace Collects

theorem distinct (h : Collects entries built) : Distinct built := h.listsOnce.nodup

theorem get?_eq_some_iff (h : Collects entries built) (key : String) (value : α) :
    get? built key = some value ↔ LastUnder entries key value :=
  (Entries.get?_eq_some_iff h.distinct key value).trans (h.mem_iff key value)

theorem get?_eq_none_iff (h : Collects entries built) (key : String) :
    get? built key = none ↔ key ∉ keys entries := by
  rw [Entries.get?_eq_none_iff, h.listsOnce.mem_iff]

theorem nil : Collects ([] : List (String × α)) [] where
  listsOnce := .nil
  mem_iff _ _ := by simp [LastUnder]

/-- One more entry is inserted. -/
theorem insert (h : Collects entries built) (key : String) (value : α) :
    Collects (entries ++ [(key, value)]) (Entries.insert built key value) where
  listsOnce := by
    rw [keys_insert, keys_concat]
    exact h.listsOnce.concat key
  mem_iff name found := by
    rw [← Entries.get?_eq_some_iff (distinct_insert h.distinct key value), get?_insert,
      lastUnder_concat]
    split
    · exact Option.some_inj
    · exact h.get?_eq_some_iff name found

end Collects

/-- What a list of entries is collected to. -/
theorem collects_ofList (entries : List (String × α)) : Collects entries (ofList entries) := by
  induction entries using List.reverseRecOn with
  | nil => exact .nil
  | append_singleton entries entry ih =>
    rw [ofList, List.foldl_append]
    exact ih.insert entry.1 entry.2

/-- The key stays where it has come first, with the value that has come last. -/
example : ofList [("b", 1), ("a", 2), ("b", 3)] = [("b", 3), ("a", 2)] := rfl

/-- Maps with the same keys in the same order are the same if all entries of the one are in the
other. -/
theorem eq_of_keys_eq (hbuilt : Distinct built) (hkeys : keys built = keys other)
    (hmem : ∀ entry ∈ built, entry ∈ other) : built = other := by
  induction built generalizing other with
  | nil => exact (List.map_eq_nil_iff.1 hkeys.symm).symm
  | cons entry rest ih =>
    cases other with
    | nil => cases hkeys
    | cons first others =>
      have hfirst : entry.1 = first.1 := (List.cons.inj hkeys).1
      have hothers : keys rest = keys others := (List.cons.inj hkeys).2
      -- the first key does not come again, in neither map
      obtain ⟨hnew, hrest⟩ := List.nodup_cons.1 hbuilt
      have hentry : entry = first := by
        rcases List.mem_cons.1 (hmem entry List.mem_cons_self) with heq | hlater
        · exact heq
        · have hkey : entry.1 ∈ keys others := List.mem_map_of_mem hlater
          rw [← hothers] at hkey
          exact absurd hkey hnew
      refine congrArg₂ List.cons hentry (ih hrest hothers fun later hlater => ?_)
      rcases List.mem_cons.1 (hmem later (List.mem_cons_of_mem _ hlater)) with heq | hin
      · have hkey : later.1 ∈ keys rest := List.mem_map_of_mem hlater
        rw [heq, ← hfirst] at hkey
        exact absurd hkey hnew
      · exact hin

/-- Entries are collected to one map only. -/
theorem Collects.unique (h : Collects entries built) (hother : Collects entries other) :
    built = other := by
  refine eq_of_keys_eq h.distinct (h.listsOnce.unique hother.listsOnce) fun entry hentry => ?_
  exact (hother.mem_iff entry.1 entry.2).2 ((h.mem_iff entry.1 entry.2).1 hentry)

end Entries

namespace Node

/-- Putting children into a map one by one inserts them into its entries. -/
theorem foldl_insert_map (children : List (String × Node)) (entries : Entries Node) :
    children.foldl (fun node (key, child) => Node.insert node key child) (.map entries) =
      .map (children.foldl (fun built (key, child) => Entries.insert built key child) entries) := by
  induction children generalizing entries with
  | nil => rfl
  | cons entry rest ih => exact ih (Entries.insert entries entry.1 entry.2)

/-- What is no map stays as it is, whatever is put into it. -/
theorem foldl_insert_of_isMap_eq_false {node : Node} (hnode : node.isMap = false)
    (children : List (String × Node)) :
    children.foldl (fun node (key, child) => Node.insert node key child) node = node := by
  have hinsert : ∀ key child, node.insert key child = node := by
    cases node with
    | map entries => cases hnode
    | scalar | list => exact fun _ _ => rfl
  induction children with
  | nil => rfl
  | cons entry rest ih =>
    obtain ⟨key, child⟩ := entry
    simp only [List.foldl_cons, hinsert, ih]

end Node

end Placeholder
