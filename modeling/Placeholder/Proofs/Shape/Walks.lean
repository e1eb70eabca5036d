import Mathlib.Data.List.Forall2
import Placeholder.Proofs.Shape.ByParts

/-!
# Reading children in sequence

The items of a list and the entries of a map are read one after the other, each where it stands.
What comes out has one datum for each of them, and for each field that a list is too short for.
Where a child stands counts only for the paths of failures, so for what comes out of a success it is
enough to know that the child is read somewhere (`ReadSomewhere`), and a success is certain if it is
read anywhere (`ReadAnywhere`).

There are four walks: over the items of a list of any length (`readAll`), over the items of a list
with one field each (`readSeries`), and over the entries of a map, as fields (`readFields`) or with
keys of one kind (`readEntries`).
-/

namespace Placeholder

variable {ν : Type}

/-! ## Successes -/

section Except

variable {α β ε ε' : Type} {result : Except ε α}

theorem bind_eq_ok_iff {next : α → Except ε β} {value : β} :
    result >>= next = .ok value ↔ ∃ inner, result = .ok inner ∧ next inner = .ok value := by
  cases result with
  | error error =>
    constructor
    · intro h
      cases h
    · rintro ⟨inner, h, -⟩
      cases h
  | ok inner =>
    constructor
    · exact fun h => ⟨inner, rfl, h⟩
    · rintro ⟨other, h, hnext⟩
      obtain rfl := Except.ok.inj h
      exact hnext

theorem map_eq_ok_iff {f : α → β} {value : β} :
    result.map f = .ok value ↔ ∃ inner, result = .ok inner ∧ f inner = value := by
  cases result with
  | error error =>
    constructor
    · intro h
      cases h
    · rintro ⟨inner, h, -⟩
      cases h
  | ok inner =>
    constructor
    · exact fun h => ⟨inner, rfl, Except.ok.inj h⟩
    · rintro ⟨other, h, rfl⟩
      obtain rfl := Except.ok.inj h
      rfl

theorem mapError_eq_ok_iff {change : ε → ε'} {value : α} :
    result.mapError change = .ok value ↔ result = .ok value := by
  cases result with
  | error error =>
    constructor <;>
    · intro h
      cases h
  | ok inner =>
    constructor <;>
    · intro h
      exact congrArg Except.ok (Except.ok.inj h)

end Except

theorem reported_eq_ok_iff {α : Type} {path : Path} {result : Except ExtractionError α}
    {value : α} : reported path result = .ok value ↔ result = .ok value :=
  mapError_eq_ok_iff

theorem unreported_eq_ok_iff {α : Type} {result : Except Fault α} {value : α} :
    unreported result = .ok value ↔ result = .ok value :=
  mapError_eq_ok_iff

/-! ## Children -/

section

variable (schema : Schema ν)

/-- The node is read as the shape at some path. -/
def ReadSomewhere (shape : Shape ν) (node : Node) (datum : Datum) : Prop :=
  ∃ path, node.extractAt schema shape path = .ok datum

/-- The node is read as the shape at every path. -/
def ReadAnywhere (shape : Shape ν) (node : Node) (datum : Datum) : Prop :=
  ∀ path, node.extractAt schema shape path = .ok datum

variable {schema} {path : Path}

/-- What belongs to one of the parts. -/
theorem exists_of_mem_forall₂ {α β : Type} {rel : α → β → Prop} {parts : List α} {found : List β}
    (h : List.Forall₂ rel parts found) {b : β} (hb : b ∈ found) : ∃ a ∈ parts, rel a b := by
  induction h with
  | nil => cases hb
  | @cons a other parts found hrel _ ih =>
    rcases List.mem_cons.1 hb with rfl | hb
    · exact ⟨a, List.mem_cons_self, hrel⟩
    · obtain ⟨inner, hmem, hinner⟩ := ih hb
      exact ⟨inner, .tail _ hmem, hinner⟩

/-- What belongs to one of the data. -/
theorem exists_of_mem_forall₂_left {α β : Type} {rel : α → β → Prop} {parts : List α}
    {found : List β} (h : List.Forall₂ rel parts found) {a : α} (ha : a ∈ parts) :
    ∃ b ∈ found, rel a b :=
  exists_of_mem_forall₂ h.flip ha

theorem map_fst_eq_of_forall₂ {entries : List (String × Node)} {found : List (String × Datum)}
    (h : List.Forall₂ (fun entry pair => pair.1 = entry.1) entries found) :
    entries.map Prod.fst = found.map Prod.fst := by
  rw [← List.forall₂_eq_eq_eq, List.forall₂_map_left_iff, List.forall₂_map_right_iff]
  exact h.imp fun _ _ hname => hname.symm

/-! ## Lists -/

theorem forall₂_of_readAll {inner : Shape ν} {position : Nat} {items : List Node}
    {data : List Datum} (h : readAll schema inner path position items = .ok data) :
    List.Forall₂ (ReadSomewhere schema inner) items data := by
  induction items generalizing position data with
  | nil =>
    rw [readAll] at h
    obtain rfl := Except.ok.inj h
    exact .nil
  | cons item rest ih =>
    rw [readAll] at h
    obtain ⟨datum, hdatum, h⟩ := bind_eq_ok_iff.1 h
    obtain ⟨others, hothers, h⟩ := bind_eq_ok_iff.1 h
    obtain rfl := Except.ok.inj h
    exact .cons ⟨_, hdatum⟩ (ih hothers)

theorem readAll_of_forall₂ {inner : Shape ν} {items : List Node} {data : List Datum}
    (h : List.Forall₂ (ReadAnywhere schema inner) items data) (position : Nat) :
    readAll schema inner path position items = .ok data := by
  induction h generalizing position with
  | nil => rw [readAll]
  | cons hdatum _ ih =>
    rw [readAll, bind_eq_ok_iff]
    refine ⟨_, hdatum _, bind_eq_ok_iff.2 ⟨_, ih (position + 1), rfl⟩⟩

/-- A field and the node that is to be read as it. -/
def FieldRead (schema : Schema ν) (part : Field ν × Node) (datum : Datum) : Prop :=
  ReadSomewhere schema part.1.shape part.2 datum

/-- A list with an item for each field gives the data of its items. -/
theorem forall₂_zip_of_readSeries {counted : String} {fields : List (Field ν)} {position : Nat}
    {items : List Node} {data : List Datum} (hlength : items.length = fields.length)
    (h : readSeries schema counted fields path position items = .ok data) :
    List.Forall₂ (FieldRead schema) (fields.zip items) data := by
  induction items generalizing fields position data with
  | nil =>
    obtain rfl := List.eq_nil_of_length_eq_zero hlength.symm
    rw [readSeries, unreported_eq_ok_iff] at h
    obtain rfl : [] = data := Except.ok.inj h
    exact .nil
  | cons item items ih =>
    cases fields with
    | nil => cases hlength
    | cons field fields =>
      rw [readSeries] at h
      obtain ⟨datum, hdatum, h⟩ := bind_eq_ok_iff.1 h
      obtain ⟨others, hothers, h⟩ := bind_eq_ok_iff.1 h
      obtain rfl := Except.ok.inj h
      exact .cons ⟨_, hdatum⟩ (ih (Nat.succ.inj hlength) hothers)

theorem forall₂_of_defaults {counted : String} {position : Nat} {fields : List (Field ν)}
    {data : List Datum} (h : defaults counted position fields = .ok data) :
    List.Forall₂ (fun field datum => field.default? = some datum) fields data := by
  induction fields generalizing position data with
  | nil =>
    obtain rfl : [] = data := Except.ok.inj h
    exact .nil
  | cons field rest ih =>
    rw [defaults] at h
    split at h
    · next datum hdefault =>
      obtain ⟨others, hothers, rfl⟩ := map_eq_ok_iff.1 h
      exact .cons hdefault (ih hothers)
    · cases h

/-- A list gives a datum for each field, which is read from one of its items or is the default. -/
theorem forall₂_of_readSeries {counted : String} {fields : List (Field ν)} {position : Nat}
    {items : List Node} {data : List Datum}
    (h : readSeries schema counted fields path position items = .ok data) :
    List.Forall₂ (fun field datum => (∃ item ∈ items, ReadSomewhere schema field.shape item datum) ∨
      field.default? = some datum) fields data := by
  induction items generalizing fields position data with
  | nil =>
    rw [readSeries, unreported_eq_ok_iff] at h
    exact (forall₂_of_defaults h).imp fun _ _ => .inr
  | cons item rest ih =>
    cases fields with
    | nil =>
      rw [readSeries] at h
      obtain rfl := Except.ok.inj h
      exact .nil
    | cons field fields =>
      rw [readSeries] at h
      obtain ⟨datum, hdatum, h⟩ := bind_eq_ok_iff.1 h
      obtain ⟨others, hothers, h⟩ := bind_eq_ok_iff.1 h
      obtain rfl := Except.ok.inj h
      refine .cons (.inl ⟨item, List.mem_cons_self, _, hdatum⟩) ((ih hothers).imp ?_)
      rintro field datum (⟨other, hmem, hread⟩ | hdefault)
      · exact .inl ⟨other, .tail _ hmem, hread⟩
      · exact .inr hdefault

theorem readSeries_of_forall₂ {counted : String} {fields : List (Field ν)} {items : List Node}
    {data : List Datum} (hlength : items.length = fields.length)
    (h : List.Forall₂ (fun part datum => ReadAnywhere schema part.1.shape part.2 datum)
      (fields.zip items) data) (position : Nat) :
    readSeries schema counted fields path position items = .ok data := by
  induction items generalizing fields position data with
  | nil =>
    obtain rfl := List.eq_nil_of_length_eq_zero hlength.symm
    cases h
    rw [readSeries]
    rfl
  | cons item items ih =>
    cases fields with
    | nil => cases hlength
    | cons field fields =>
      rw [List.zip_cons_cons] at h
      cases h with
      | cons hdatum hrest =>
        rw [readSeries, bind_eq_ok_iff]
        have hothers := ih (Nat.succ.inj hlength) hrest (position + 1)
        exact ⟨_, hdatum _, bind_eq_ok_iff.2 ⟨_, hothers, rfl⟩⟩

/-! ## Maps -/

/-- An entry of the map at the path that is read as the field of its name. -/
def EntryReadAt (schema : Schema ν) (fields : List (Field ν)) (path : Path)
    (entry : String × Node) (found : String × Datum) : Prop :=
  found.1 = entry.1 ∧ ∃ field, fields.find? (·.name = entry.1) = some field ∧
    entry.2.extractAt schema field.shape (path.child (.key entry.1)) = .ok found.2

/-- An entry that is read as the field of its name. -/
def EntryRead (schema : Schema ν) (fields : List (Field ν)) (entry : String × Node)
    (found : String × Datum) : Prop :=
  found.1 = entry.1 ∧ ∃ field, fields.find? (·.name = entry.1) = some field ∧
    ReadSomewhere schema field.shape entry.2 found.2

/-- What a map gives for fields are the data of its entries whose keys are names of fields.  If the
fields are closed, there may be no other entries. -/
theorem readFields_eq_ok_iff {fields : List (Field ν)} {closed : Bool}
    {entries : List (String × Node)} {found : List (String × Datum)} :
    readFields schema fields closed path entries = .ok found ↔
      (closed = true → ∀ entry ∈ entries, (fields.find? (·.name = entry.1)).isSome) ∧
        List.Forall₂ (EntryReadAt schema fields path)
          (entries.filter fun entry => (fields.find? (·.name = entry.1)).isSome) found := by
  induction entries generalizing found with
  | nil =>
    rw [readFields, List.filter_nil, List.forall₂_nil_left_iff]
    exact ⟨fun h => ⟨fun _ => List.forall_mem_nil _, (Except.ok.inj h).symm⟩,
      fun h => congrArg _ h.2.symm⟩
  | cons entry entries ih =>
    obtain ⟨key, child⟩ := entry
    rw [readFields, List.forall_mem_cons]
    cases hfield : fields.find? (·.name = key) with
    | none =>
      rw [List.filter_cons_of_neg (by simp [hfield])]
      cases closed with
      | true =>
        constructor
        · intro h
          cases h
        · exact fun h => absurd (h.1 rfl).1 Bool.false_ne_true
      | false =>
        refine ih.trans ⟨fun h => ⟨fun hc => ?_, h.2⟩, fun h => ⟨fun hc => ?_, h.2⟩⟩ <;> cases hc
    | some field =>
      rw [List.filter_cons_of_pos (by simp [hfield])]
      refine bind_eq_ok_iff.trans ⟨?_, ?_⟩
      · rintro ⟨datum, hdatum, h⟩
        obtain ⟨others, hothers, h⟩ := bind_eq_ok_iff.1 h
        obtain rfl := Except.ok.inj h
        obtain ⟨hclosed, hothers⟩ := ih.1 hothers
        exact ⟨fun hc => ⟨rfl, hclosed hc⟩, .cons ⟨rfl, field, hfield, hdatum⟩ hothers⟩
      · rintro ⟨hclosed, h⟩
        cases h with
        | @cons _ pair _ others hentry hothers =>
          obtain ⟨name, datum⟩ := pair
          obtain ⟨rfl, known, hknown, hdatum⟩ := hentry
          obtain rfl := Option.some.inj (hfield.symm.trans hknown)
          exact ⟨datum, hdatum, bind_eq_ok_iff.2
            ⟨others, ih.2 ⟨fun hc => (hclosed hc).2, hothers⟩, rfl⟩⟩

theorem forall₂_of_readFields {fields : List (Field ν)} {closed : Bool}
    {entries : List (String × Node)} {found : List (String × Datum)}
    (h : readFields schema fields closed path entries = .ok found) :
    List.Forall₂ (EntryRead schema fields)
      (entries.filter fun entry => (fields.find? (·.name = entry.1)).isSome) found := by
  refine (readFields_eq_ok_iff.1 h).2.imp ?_
  rintro entry pair ⟨hname, field, hfield, hdatum⟩
  exact ⟨hname, field, hfield, _, hdatum⟩

theorem readFields_of_forall₂ {fields : List (Field ν)} {closed : Bool}
    {entries : List (String × Node)} {found : List (String × Datum)}
    (h : List.Forall₂ (fun entry found => found.1 = entry.1 ∧ ∃ field,
      fields.find? (·.name = entry.1) = some field ∧
        ReadAnywhere schema field.shape entry.2 found.2) entries found) :
    readFields schema fields closed path entries = .ok found := by
  have hknown : ∀ entry ∈ entries, (fields.find? (·.name = entry.1)).isSome = true := by
    intro entry hentry
    obtain ⟨pair, -, -, field, hfield, -⟩ := exists_of_mem_forall₂_left h hentry
    rw [hfield]
    rfl
  rw [readFields_eq_ok_iff, List.filter_eq_self.2 hknown]
  refine ⟨fun _ => hknown, h.imp ?_⟩
  rintro entry pair ⟨hname, field, hfield, hdatum⟩
  exact ⟨hname, field, hfield, hdatum _⟩

/-- An entry of the map at the path whose key is of the kind and whose node is read as the shape. -/
def KeyedReadAt (schema : Schema ν) (keyShape : KeyShape ν) (inner : Shape ν) (path : Path)
    (entry : String × Node) (datum : String × Datum) : Prop :=
  datum.1 = entry.1 ∧ readKey schema keyShape entry.1 = .ok entry.1 ∧
    entry.2.extractAt schema inner (path.child (.key entry.1)) = .ok datum.2

/-- A map with keys of one kind gives the data of all its entries. -/
theorem readEntries_eq_ok_iff {keyShape : KeyShape ν} {inner : Shape ν}
    {entries : List (String × Node)} {data : List (String × Datum)} :
    readEntries schema keyShape inner path entries = .ok data ↔
      List.Forall₂ (KeyedReadAt schema keyShape inner path) entries data := by
  induction entries generalizing data with
  | nil =>
    rw [readEntries, List.forall₂_nil_left_iff]
    exact ⟨fun h => (Except.ok.inj h).symm, fun h => congrArg _ h.symm⟩
  | cons entry entries ih =>
    obtain ⟨key, child⟩ := entry
    rw [readEntries]
    constructor
    · intro h
      obtain ⟨key', hkey, hrest⟩ := bind_eq_ok_iff.1 h
      rw [unreported_eq_ok_iff] at hkey
      obtain rfl := readKey_eq hkey
      obtain ⟨datum, hdatum, hrest⟩ := bind_eq_ok_iff.1 hrest
      obtain ⟨others, hothers, hrest⟩ := bind_eq_ok_iff.1 hrest
      obtain rfl := Except.ok.inj hrest
      exact .cons ⟨rfl, hkey, hdatum⟩ (ih.1 hothers)
    · intro h
      cases h with
      | @cons _ pair _ others hentry hothers =>
        obtain ⟨name, datum⟩ := pair
        obtain ⟨rfl, hkey, hdatum⟩ := hentry
        refine bind_eq_ok_iff.2 ⟨_, unreported_eq_ok_iff.2 hkey, ?_⟩
        exact bind_eq_ok_iff.2 ⟨_, hdatum, bind_eq_ok_iff.2 ⟨_, ih.2 hothers, rfl⟩⟩

theorem forall₂_of_readEntries {keyShape : KeyShape ν} {inner : Shape ν}
    {entries : List (String × Node)} {data : List (String × Datum)}
    (h : readEntries schema keyShape inner path entries = .ok data) :
    List.Forall₂ (fun entry datum => datum.1 = entry.1 ∧
      readKey schema keyShape entry.1 = .ok entry.1 ∧
      ReadSomewhere schema inner entry.2 datum.2) entries data :=
  (readEntries_eq_ok_iff.1 h).imp fun _ _ hentry => ⟨hentry.1, hentry.2.1, _, hentry.2.2⟩

theorem readEntries_of_forall₂ {keyShape : KeyShape ν} {inner : Shape ν}
    {entries : List (String × Node)} {data : List (String × Datum)}
    (h : List.Forall₂ (fun entry datum => datum.1 = entry.1 ∧
      readKey schema keyShape entry.1 = .ok entry.1 ∧
      ReadAnywhere schema inner entry.2 datum.2) entries data) :
    readEntries schema keyShape inner path entries = .ok data :=
  readEntries_eq_ok_iff.2 (h.imp fun _ _ hentry => ⟨hentry.1, hentry.2.1, hentry.2.2 _⟩)

/-! ## Records -/

/-- What belongs to each of the parts, under the name of the part. -/
theorem forall₂_named_iff {α : Type} (name : α → String) {rel : α → Datum → Prop}
    {parts : List α} {found : List (String × Datum)} :
    List.Forall₂ (fun part pair => pair.1 = name part ∧ rel part pair.2) parts found ↔
      ∃ data, found = (parts.map name).zip data ∧ List.Forall₂ rel parts data := by
  constructor
  · intro h
    induction h with
    | nil => exact ⟨[], rfl, .nil⟩
    | cons hpair _ ih =>
      obtain ⟨data, rfl, hdata⟩ := ih
      obtain ⟨hname, hrel⟩ := hpair
      exact ⟨_ :: data, by rw [List.map_cons, List.zip_cons_cons, ← hname], .cons hrel hdata⟩
  · rintro ⟨data, rfl, hdata⟩
    induction hdata with
    | nil => exact .nil
    | cons hrel _ ih => exact .cons ⟨rfl, hrel⟩ ih

theorem find?_name_eq {fields : List (Field ν)} (h : (fields.map (·.name)).Nodup) {field : Field ν}
    (hmem : field ∈ fields) : fields.find? (·.name = field.name) = some field := by
  induction fields with
  | nil => cases hmem
  | cons first rest ih =>
    rw [List.map_cons, List.nodup_cons] at h
    rcases List.mem_cons.1 hmem with rfl | hmem
    · exact List.find?_cons_of_pos (by simp)
    · have hne : ¬ first.name = field.name := fun heq =>
        h.1 (heq ▸ List.mem_map.2 ⟨field, hmem, rfl⟩)
      rw [List.find?_cons_of_neg (by simpa using hne)]
      exact ih h.2 hmem

theorem assemble_eq_ok_iff {fields : List (Field ν)} {found : List (String × Datum)}
    {datum : Datum} :
    assemble fields found = .ok datum ↔
      ∃ data, List.Forall₂ (fun field datum => fieldDatum field found = .ok datum) fields data ∧
        datum = .record ((fields.map (·.name)).zip data) := by
  have hfields : ∀ (fields : List (Field ν)) (pairs : List (String × Datum)),
      (fields.mapM fun field => (fieldDatum field found).map (field.name, ·)) = .ok pairs ↔
        ∃ data, List.Forall₂ (fun field datum => fieldDatum field found = .ok datum) fields data ∧
          pairs = (fields.map (·.name)).zip data := by
    intro fields
    induction fields with
    | nil =>
      intro pairs
      rw [List.mapM_nil]
      constructor
      · intro h
        exact ⟨[], .nil, (Except.ok.inj h).symm⟩
      · rintro ⟨data, h, rfl⟩
        rfl
    | cons field rest ih =>
      intro pairs
      rw [List.mapM_cons, bind_eq_ok_iff]
      constructor
      · rintro ⟨pair, hpair, h⟩
        obtain ⟨datum, hdatum, rfl⟩ := map_eq_ok_iff.1 hpair
        obtain ⟨others, hothers, h⟩ := bind_eq_ok_iff.1 h
        obtain ⟨data, hdata, rfl⟩ := (ih others).1 hothers
        exact ⟨datum :: data, .cons hdatum hdata, (Except.ok.inj h).symm⟩
      · rintro ⟨data, h, rfl⟩
        cases h with
        | cons hdatum hdata =>
          refine ⟨_, map_eq_ok_iff.2 ⟨_, hdatum, rfl⟩, bind_eq_ok_iff.2 ⟨_, ?_, rfl⟩⟩
          exact (ih _).2 ⟨_, hdata, rfl⟩
  rw [assemble, map_eq_ok_iff]
  constructor
  · rintro ⟨pairs, hpairs, rfl⟩
    obtain ⟨data, hdata, rfl⟩ := (hfields fields pairs).1 hpairs
    exact ⟨data, hdata, rfl⟩
  · rintro ⟨data, hdata, rfl⟩
    exact ⟨_, (hfields fields _).2 ⟨data, hdata, rfl⟩, rfl⟩

/-- With a datum found for every field, the record is that of these data. -/
theorem assemble_zip {fields : List (Field ν)} (hnames : (fields.map (·.name)).Nodup)
    {data : List Datum} (hlength : fields.length = data.length) :
    assemble fields ((fields.map (·.name)).zip data) =
      .ok (.record ((fields.map (·.name)).zip data)) := by
  have hkeys : Entries.Distinct ((fields.map (·.name)).zip data) := by
    rw [Entries.Distinct, Entries.keys, List.map_fst_zip (by simp [hlength])]
    exact hnames
  refine assemble_eq_ok_iff.2 ⟨data, List.forall₂_iff_zip.2 ⟨hlength, fun {field datum} hmem => ?_⟩,
    rfl⟩
  have hpair : (field.name, datum) ∈ (fields.map (·.name)).zip data := by
    rw [List.zip_map_left]
    exact List.mem_map.2 ⟨_, hmem, rfl⟩
  have hfound : ((fields.map (·.name)).zip data).lookup field.name = some datum :=
    Entries.get?_of_mem hkeys hpair
  rw [fieldDatum, hfound]

section Named

variable {fields : List (Field ν)} {closed : Bool} {items : List Node}
  (hnames : (fields.map (·.name)).Nodup) (hlength : fields.length = items.length)

include hlength in
theorem map_name_zip : (fields.zip items).map (fun part => part.1.name) = fields.map (·.name) := by
  have hfields : (fields.zip items).map Prod.fst = fields :=
    List.map_fst_zip (Nat.le_of_eq hlength)
  calc
    (fields.zip items).map (fun part => part.1.name)
      = ((fields.zip items).map Prod.fst).map (·.name) := (List.map_map ..).symm
    _ = fields.map (·.name) := by rw [hfields]

include hnames in
theorem find?_name_of_mem_zip : ∀ part ∈ fields.zip items,
    fields.find? (·.name = part.1.name) = some part.1 := fun _ hpart =>
  find?_name_eq hnames (List.of_mem_zip hpart).1

include hnames hlength

/-- A map with just the names of the fields, in order, gives the data of its nodes under the same
names. -/
theorem exists_of_readFields_zip {found : List (String × Datum)}
    (h : readFields schema fields closed path ((fields.map (·.name)).zip items) = .ok found) :
    ∃ data, found = (fields.map (·.name)).zip data ∧
      List.Forall₂ (FieldRead schema) (fields.zip items) data := by
  have hkeys : ∀ entry ∈ (fields.map (·.name)).zip items,
      (fields.find? (·.name = entry.1)).isSome = true := by
    intro entry hentry
    obtain ⟨field, hfield, hname⟩ := List.mem_map.1 (List.of_mem_zip hentry).1
    rw [← hname, find?_name_eq hnames hfield]
    rfl
  have hread := forall₂_of_readFields h
  rw [List.filter_eq_self.2 hkeys, List.zip_map_left, List.forall₂_map_left_iff] at hread
  have hparts := (List.forall₂_and_left _ _).2 ⟨find?_name_of_mem_zip hnames, hread⟩
  rw [← map_name_zip hlength, ← forall₂_named_iff]
  refine hparts.imp ?_
  rintro part pair ⟨hfield, hname, field, hfound, hdatum⟩
  obtain rfl := Option.some.inj (hfield.symm.trans hfound)
  exact ⟨hname, hdatum⟩

/-- A map with just the names of the fields, in order, is read if its nodes are. -/
theorem readFields_zip_of_forall₂ {data : List Datum}
    (h : List.Forall₂ (fun part datum => ReadAnywhere schema part.1.shape part.2 datum)
      (fields.zip items) data) :
    readFields schema fields closed path ((fields.map (·.name)).zip items) =
      .ok ((fields.map (·.name)).zip data) := by
  apply readFields_of_forall₂
  have hnamed := (forall₂_named_iff fun part : Field ν × Node => part.1.name).2 ⟨data, rfl, h⟩
  have hparts := (List.forall₂_and_left _ _).2 ⟨find?_name_of_mem_zip hnames, hnamed⟩
  rw [map_name_zip hlength] at hparts
  rw [List.zip_map_left, List.forall₂_map_left_iff]
  refine hparts.imp ?_
  rintro part pair ⟨hfield, hname, hdatum⟩
  exact ⟨hname, part.1, hfield, hdatum⟩

end Named

end

end Placeholder
