/-!
# Entries in insertion order

Maps from texts that remember the order in which their keys came.  Inserting under a key that is
there replaces the value and leaves the key where it is.
-/

namespace Placeholder

/-- The entries of a map, in order. -/
abbrev Entries (α : Type u) := List (String × α)

namespace Entries

variable {α : Type u}

/-- The keys, in order. -/
def keys (entries : Entries α) : List String := entries.map Prod.fst

/-- The value under a key. -/
def get? (entries : Entries α) (key : String) : Option α := entries.lookup key

/-- The entries with a value put under a key: in place if the key is there, else at the end. -/
def insert (entries : Entries α) (key : String) (value : α) : Entries α :=
  match entries with
  | [] => [(key, value)]
  | (k, v) :: rest => if k = key then (k, value) :: rest else (k, v) :: insert rest key value

/-- The entries inserted one by one. -/
def ofList (entries : List (String × α)) : Entries α :=
  entries.foldl (fun built (key, value) => insert built key value) []

/-- No key comes twice. -/
def Distinct (entries : Entries α) : Prop := (keys entries).Nodup

instance (entries : Entries α) : Decidable (Distinct entries) :=
  inferInstanceAs (Decidable (keys entries).Nodup)

theorem get?_of_mem {entries : Entries α} {key : String} {value : α}
    (hd : Distinct entries) (h : (key, value) ∈ entries) :
    get? entries key = some value := by
  induction entries with
  | nil => simp at h
  | cons entry rest ih =>
    obtain ⟨k, v⟩ := entry
    rw [Distinct, keys, List.map_cons, List.nodup_cons] at hd
    rcases List.mem_cons.1 h with he | hr
    · obtain ⟨rfl, rfl⟩ := Prod.mk.inj he
      simp [get?]
    · have hk : key ≠ k := fun e => hd.1 (List.mem_map.2 ⟨_, hr, e⟩)
      have hk : (key == k) = false := by simpa using hk
      simpa [get?, List.lookup_cons, hk] using ih hd.2 hr

theorem mem_of_get? {entries : Entries α} {key : String} {value : α}
    (h : get? entries key = some value) : (key, value) ∈ entries := by
  induction entries with
  | nil => simp [get?] at h
  | cons entry rest ih =>
    obtain ⟨k, v⟩ := entry
    rw [get?, List.lookup_cons] at h
    split at h
    · next hk =>
      obtain rfl := Option.some.inj h
      rw [eq_of_beq hk]
      exact List.mem_cons_self
    · exact List.mem_cons_of_mem _ (ih h)

theorem keys_insert (entries : Entries α) (key : String) (value : α) :
    keys (insert entries key value) =
      if key ∈ keys entries then keys entries else keys entries ++ [key] := by
  induction entries with
  | nil => simp [insert, keys]
  | cons entry rest ih =>
    obtain ⟨k, v⟩ := entry
    by_cases h : k = key
    · simp [insert, keys, h]
    · have h' : ¬key = k := fun e => h e.symm
      have ih' : List.map Prod.fst (insert rest key value) = _ := ih
      simp only [insert, h, if_false, keys, List.map_cons, List.mem_cons, h', false_or, ih']
      split <;> simp_all [keys]

theorem distinct_insert {entries : Entries α} (h : Distinct entries) (key : String) (value : α) :
    Distinct (insert entries key value) := by
  unfold Distinct at *
  rw [keys_insert]
  split
  · exact h
  · next hk =>
    rw [List.nodup_append]
    exact ⟨h, by simp, fun a ha b hb e => by simp_all⟩

theorem get?_cons (key : String) (value : α) (rest : Entries α) (other : String) :
    get? ((key, value) :: rest) other = if other = key then some value else get? rest other := by
  rw [get?, List.lookup_cons]
  by_cases h : other = key
  · simp [h]
  · have hb : (other == key) = false := by simpa using h
    rw [hb, if_neg h]
    rfl

/-- Nothing is found where there is no such key. -/
theorem get?_eq_none_iff {entries : Entries α} {key : String} :
    get? entries key = none ↔ key ∉ keys entries := by
  induction entries with
  | nil => simp [get?, keys]
  | cons entry rest ih =>
    obtain ⟨k, v⟩ := entry
    rw [get?_cons, keys, List.map_cons, List.mem_cons, not_or]
    by_cases h : key = k
    · simp [h]
    · rw [if_neg h, ih]
      exact ⟨fun hrest => ⟨h, hrest⟩, fun hboth => hboth.2⟩

theorem keys_map {β : Type v} (f : α → β) (entries : Entries α) :
    keys (entries.map fun (key, value) => (key, f value)) = keys entries := by
  rw [keys, List.map_map]
  rfl

theorem distinct_map {β : Type v} {entries : Entries α} (f : α → β) (h : Distinct entries) :
    Distinct (entries.map fun (key, value) => (key, f value)) := by
  rw [Distinct, keys_map]
  exact h

/-- What is found where every value has been changed. -/
theorem get?_map {β : Type v} (f : α → β) (entries : Entries α) (key : String) :
    get? (entries.map fun (key, value) => (key, f value)) key = (get? entries key).map f := by
  induction entries with
  | nil => rfl
  | cons entry rest ih =>
    obtain ⟨k, v⟩ := entry
    rw [List.map_cons, get?_cons, get?_cons, ih]
    split <;> rfl

/-- What is found after an insertion. -/
theorem get?_insert (entries : Entries α) (key : String) (value : α) (other : String) :
    get? (insert entries key value) other =
      if other = key then some value else get? entries other := by
  induction entries with
  | nil => exact get?_cons key value [] other
  | cons entry rest ih =>
    obtain ⟨k, v⟩ := entry
    rw [insert, get?_cons]
    by_cases hk : k = key
    · rw [if_pos hk, get?_cons, hk]
      by_cases h : other = key
      · rw [if_pos h, if_pos h]
      · rw [if_neg h, if_neg h, if_neg h]
    · rw [if_neg hk, get?_cons, ih]
      by_cases h : other = k
      · have hne : ¬ other = key := fun heq => hk (h.symm.trans heq)
        rw [if_pos h, if_neg hne, if_pos h]
      · rw [if_neg h, if_neg h]

/-- A key that is not there goes to the end. -/
theorem insert_of_notMem {entries : Entries α} {key : String} (h : key ∉ keys entries)
    (value : α) : insert entries key value = entries ++ [(key, value)] := by
  induction entries with
  | nil => rfl
  | cons entry rest ih =>
    obtain ⟨k, v⟩ := entry
    rw [keys, List.map_cons, List.mem_cons, not_or] at h
    rw [insert, if_neg (Ne.symm h.1), ih h.2]
    rfl

/-- Entries with distinct keys are what they are inserted to. -/
theorem ofList_eq_self {entries : Entries α} (h : Distinct entries) :
    ofList entries = entries := by
  suffices hs : ∀ built : Entries α, Distinct (built ++ entries) →
      entries.foldl (fun built (key, value) => insert built key value) built = built ++ entries from
    hs [] h
  clear h
  induction entries with
  | nil => exact fun built _ => (List.append_nil built).symm
  | cons entry rest ih =>
    intro built hd
    obtain ⟨k, v⟩ := entry
    have hk : k ∉ keys built := by
      rw [Distinct, keys, List.map_append, List.map_cons, List.nodup_append] at hd
      exact fun hmem => hd.2.2 k hmem k List.mem_cons_self rfl
    have hassoc : built ++ (k, v) :: rest = (built ++ [(k, v)]) ++ rest := by simp
    rw [List.foldl_cons, hassoc]
    dsimp only
    rw [insert_of_notMem hk]
    rw [hassoc] at hd
    exact ih _ hd

theorem distinct_ofList (entries : List (String × α)) : Distinct (ofList entries) := by
  suffices h : ∀ built : Entries α, Distinct built →
      Distinct (entries.foldl (fun built (key, value) => insert built key value) built) from
    h [] List.nodup_nil
  induction entries with
  | nil => exact fun _ h => h
  | cons entry rest ih => exact fun built h => ih _ (distinct_insert h _ _)

end Entries

end Placeholder
