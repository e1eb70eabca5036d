import Mathlib.Data.List.Perm.Basic
import Placeholder.Proofs.Shape.Inside
import Placeholder.Proofs.Shape.Sorted

/-!
# Maps in another order

The order of the entries does not count for what a map is read as: fields are found by their names
(`assemble_eq_of_perm`), the entries of a sorted map are put in order anyway, and a choice has one
entry (`readNode_map_of_perm`).  Nor do entries count that nothing is expected of, with any nodes
under them: an open record passes over them, and a closed one fails at the first of them
(`readFields_cons_unknown`).  All this may be done at once and in any number of maps inside of a
structure.

Main statement: `extract_rearranged_exact`.
-/

namespace Placeholder

variable {ν : Type} {schema : Schema ν} {path : Path}

/-! ## The order of the entries -/

theorem Entries.get?_eq_of_perm {α : Type} {entries others : Entries α} (hkeys : Distinct entries)
    (h : entries.Perm others) (key : String) : get? entries key = get? others key := by
  have hothers : Distinct others := (h.map Prod.fst).nodup_iff.1 hkeys
  cases hfound : get? entries key with
  | some value => exact (get?_of_mem hothers (h.subset (mem_of_get? hfound))).symm
  | none =>
    rw [get?_eq_none_iff] at hfound
    exact (get?_eq_none_iff.2 fun hkey => hfound ((h.map Prod.fst).symm.subset hkey)).symm

section Fields

variable {fields : List (Field ν)} {closed : Bool} {entries others : List (String × Node)}
  {found found' : List (String × Datum)}

/-- Fields are found by their names. -/
theorem assemble_eq_of_perm (hkeys : Entries.Distinct found) (h : found.Perm found') :
    assemble fields found = assemble fields found' := by
  have hfield : ∀ field : Field ν, fieldDatum field found = fieldDatum field found' := by
    intro field
    have hlookup : found.lookup field.name = found'.lookup field.name :=
      Entries.get?_eq_of_perm hkeys h field.name
    rw [fieldDatum, fieldDatum, hlookup]
  simp only [assemble, hfield]

theorem distinct_of_readFields (hkeys : Entries.Distinct entries)
    (h : readFields schema fields closed path entries = .ok found) : Entries.Distinct found := by
  have hnames := map_fst_eq_of_forall₂
    ((forall₂_of_readFields h).imp fun _ _ hentry => hentry.1)
  rw [Entries.Distinct, Entries.keys, ← hnames]
  exact (List.filter_sublist.map Prod.fst).nodup hkeys

theorem exists_perm_of_readFields (h : entries.Perm others)
    (hread : readFields schema fields closed path entries = .ok found) :
    ∃ found', found.Perm found' ∧ readFields schema fields closed path others = .ok found' := by
  obtain ⟨hclosed, hfound⟩ := readFields_eq_ok_iff.1 hread
  obtain ⟨found', hfound', hperm⟩ := List.perm_comp_forall₂ (h.symm.filter _) hfound
  exact ⟨found', hperm.symm, readFields_eq_ok_iff.2
    ⟨fun hc entry hentry => hclosed hc entry (h.symm.subset hentry), hfound'⟩⟩

end Fields

theorem exists_perm_of_readEntries {keyShape : KeyShape ν} {inner : Shape ν}
    {entries others : List (String × Node)} {data : List (String × Datum)}
    (h : entries.Perm others)
    (hread : readEntries schema keyShape inner path entries = .ok data) :
    ∃ data', data.Perm data' ∧ readEntries schema keyShape inner path others = .ok data' := by
  obtain ⟨data', hdata', hperm⟩ :=
    List.perm_comp_forall₂ h.symm (readEntries_eq_ok_iff.1 hread)
  exact ⟨data', hperm.symm, readEntries_eq_ok_iff.2 hdata'⟩

/-- A map is read as the same datum with its entries in another order, unless it is kept as it
is. -/
theorem readNode_map_of_perm {demand : Demand ν} (hdemand : demand ≠ .node)
    {entries others : List (String × Node)} (hkeys : Entries.Distinct entries)
    (h : entries.Perm others) {datum : Datum}
    (hread : readNode schema demand path (.map entries) = .ok datum) :
    readNode schema demand path (.map others) = .ok datum := by
  cases demand with
  | node => exact absurd rfl hdemand
  | value =>
    rw [readNode_value_of_value?_eq_none schema path rfl] at hread
    cases hread
  | map keyShape inner =>
    simp only [readNode, reported_eq_ok_iff, map_eq_ok_iff] at hread ⊢
    obtain ⟨data, hdata, rfl⟩ := hread
    obtain ⟨data', hperm, hdata'⟩ := exists_perm_of_readEntries h hdata
    refine ⟨data', hdata', congrArg Datum.map ?_⟩
    have hpairs := pairwise_of_readEntries hkeys hdata
    refine (sortEntries_eq_of_perm ?_ keyBefore_irrefl hperm hpairs).symm
    exact fun _ _ _ => keyBefore_trans
  | record title fields closed =>
    simp only [readNode, reported_eq_ok_iff, bind_eq_ok_iff, unreported_eq_ok_iff] at hread ⊢
    obtain ⟨found, hfound, hrecord⟩ := hread
    obtain ⟨found', hperm, hfound'⟩ := exists_perm_of_readFields h hfound
    rw [assemble_eq_of_perm (distinct_of_readFields hkeys hfound) hperm] at hrecord
    exact ⟨found', hfound', hrecord⟩
  | choice title variants =>
    by_cases hone : entries.length = 1
    · obtain ⟨entry, rfl⟩ := List.length_eq_one_iff.1 hone
      obtain rfl := List.singleton_perm.1 h
      exact hread
    · rw [readNode_of_unchoosable (.keys hone)] at hread
      cases hread
  | sizes =>
    simp only [readNode] at hread ⊢
    rwa [← h.length_eq]
  | string | boolean | character | unit | integer | float | list | series | path | valueFirst =>
    simp only [readNode] at hread ⊢
    exact hread

/-! ## Unknown entries -/

section Unknown

variable {title : String} {fields : List (Field ν)} {closed : Bool}

theorem readFields_cons_known {key : String} {field : Field ν}
    (hfield : fields.find? (·.name = key) = some field) (child : Node)
    (rest : List (String × Node)) :
    readFields schema fields closed path ((key, child) :: rest) =
      child.extractAt schema field.shape (path.child (.key key)) >>= fun datum =>
        (readFields schema fields closed path rest).map ((key, datum) :: ·) := by
  rw [readFields, hfield]
  rfl

/-- The entries of a map are read one after the other, up to the first failure. -/
theorem readFields_append (before rest : List (String × Node)) :
    readFields schema fields closed path (before ++ rest) =
      readFields schema fields closed path before >>= fun found =>
        (readFields schema fields closed path rest).map (found ++ ·) := by
  induction before with
  | nil =>
    rw [List.nil_append, readFields]
    exact (congrFun Except.map_id _).symm
  | cons entry before ih =>
    obtain ⟨key, child⟩ := entry
    cases hfield : fields.find? (·.name = key) with
    | none =>
      rw [List.cons_append, readFields, readFields, hfield]
      cases closed with
      | true => rfl
      | false => exact ih
    | some field =>
      rw [List.cons_append, readFields_cons_known hfield, readFields_cons_known hfield, ih]
      cases child.extractAt schema field.shape (path.child (.key key)) with
      | error error => rfl
      | ok datum =>
        cases readFields schema fields closed path before with
        | error error => rfl
        | ok found => cases readFields schema fields closed path rest <;> rfl

variable {key : String} (hkey : key ∉ fields.map (·.name)) (before : List (String × Node))
  (child : Node) (after : List (String × Node))

include hkey

/-- An unknown entry is passed over, or it is where a closed record fails. -/
theorem readFields_cons_unknown :
    readFields schema fields closed path ((key, child) :: after) =
      if closed then .error { fault := .unknownField key (fields.map (·.name)) }
      else readFields schema fields closed path after := by
  have hnone : fields.find? (·.name = key) = none :=
    List.find?_eq_none.2 fun field hfield hname =>
      hkey (List.mem_map.2 ⟨field, hfield, of_decide_eq_true hname⟩)
  rw [readFields, hnone]

theorem readNode_open_unknown :
    readNode schema (.record title fields false) path (.map (before ++ (key, child) :: after)) =
      readNode schema (.record title fields false) path (.map (before ++ after)) := by
  simp only [readNode, readFields_append, readFields_cons_unknown hkey]
  rfl

/-- A closed record fails at an unknown entry at the latest, whatever the node under it is and
whatever comes after it. -/
theorem readNode_closed_unknown :
    readNode schema (.record title fields true) path (.map (before ++ (key, child) :: after)) =
      reported path (readFields schema fields true path before >>= fun _ =>
        .error { fault := .unknownField key (fields.map (·.name)) }) := by
  simp only [readNode, readFields_append, readFields_cons_unknown hkey]
  cases readFields schema fields true path before <;> rfl

end Unknown

/-! ## Anywhere inside -/

/-- A map with its entries rearranged, of which something may be expected: in another order, or with
one more that is unknown to an open record.  Where nothing is expected the entries may be any. -/
inductive Rearranges (schema : Schema ν) : Option (Expected ν) → Node → Node → Prop where
  | reordered {expected? : Option (Expected ν)} {entries others : List (String × Node)}
      (hkeys : Entries.Distinct entries) (h : entries.Perm others) :
      Rearranges schema expected? (.map entries) (.map others)
  | unknown {expected : Expected ν} {title key : String} {fields : List (Field ν)}
      (hdemand : expected.demand schema = .record title fields false)
      (hkey : key ∉ fields.map (·.name)) (before : List (String × Node)) (child : Node)
      (after : List (String × Node)) :
      Rearranges schema (some expected) (.map (before ++ after))
        (.map (before ++ (key, child) :: after))
  | unread (entries others : List (String × Node)) :
      Rearranges schema none (.map entries) (.map others)

/-- The one structure becomes the other by rearranging maps anywhere inside, one after the other, in
either direction. -/
def Rearranged (schema : Schema ν) (expected : Expected ν) : Node → Node → Prop :=
  Relation.EqvGen (ChangedInside schema (Rearranges schema) (some expected))

theorem readAlike_of_rearranges {expected? : Option (Expected ν)}
    (hexpected : ∀ expected, expected? = some expected →
      (expected.demand schema).Typed schema) {node node' : Node}
    (h : Rearranges schema expected? node node') : ReadAlike schema expected? node node' := by
  cases h with
  | @reordered _ entries others hkeys h =>
    refine readAlike_of_readNode rfl rfl fun expected hsome path datum => ?_
    have hdemand := (hexpected expected hsome).ne_node
    have hothers : Entries.Distinct others := (h.map Prod.fst).nodup_iff.1 hkeys
    exact ⟨readNode_map_of_perm hdemand hkeys h, readNode_map_of_perm hdemand hothers h.symm⟩
  | @unknown expected title key fields hdemand hkey before child after =>
    refine readAlike_of_readNode rfl rfl fun other hother path => ?_
    obtain rfl := Option.some.inj hother
    rw [hdemand, readNode_open_unknown hkey]
    exact .refl _
  | unread entries others => exact readAlike_of_readNode rfl rfl nofun

/-- A shape with nothing inside that is read as any structure.  Structures that differ in the order
of the entries of maps and in entries that open records do not know, anywhere inside, are read as
the same datum or neither is read.  A closed record, wherever it is expected, refuses a map with an
entry that it does not know: the map fails there at the latest, whatever the node under the key is
and whatever comes after, and with it the whole structure fails. -/
theorem extract_rearranged_exact {shape : Shape ν}
    (hshape : (Demand.ofShape schema shape).Typed schema) :
    (∀ node node', Rearranged schema (.shape shape) node node' → ∀ datum,
      node.extract schema shape = .ok datum ↔ node'.extract schema shape = .ok datum) ∧
    ∀ node place found title fields, (Expected.shape shape).at? schema node place = some found →
      found.demand schema = .record title fields true →
      ∀ key, key ∉ fields.map (·.name) → ∀ before child after,
        node.follow? place = some (.map (before ++ (key, child) :: after)) →
        (∃ error, node.extract schema shape = .error error) ∧
        ∀ path, readNode schema (found.demand schema) path
            (.map (before ++ (key, child) :: after)) =
          reported path (readFields schema fields true path before >>= fun _ =>
            .error { fault := .unknownField key (fields.map (·.name)) }) := by
  refine ⟨fun node node' h => ?_, ?_⟩
  · have hexpected : ∀ expected, some (Expected.shape shape) = some expected →
        (expected.demand schema).Typed schema := fun expected heq => Option.some.inj heq ▸ hshape
    induction h with
    | rel node node' h =>
      have halike := readAlike_of_changedInside (fun hinside => readAlike_of_rearranges hinside)
        hexpected h
      exact halike.readAt _ rfl []
    | refl node => exact fun datum => Iff.rfl
    | symm node node' _ ih => exact fun datum => (ih datum).symm
    | trans node middle node' _ _ ih ih' => exact fun datum => (ih datum).trans (ih' datum)
  · intro node place found title fields hat hdemand key hkey before child after hfollow
    refine ⟨?_, fun path => ?_⟩
    · cases hread : node.extract schema shape with
      | error error => exact ⟨error, rfl⟩
      | ok datum =>
        have hread : (Expected.shape shape).readAt schema [] node = .ok datum := hread
        obtain ⟨other, inner, hinner⟩ := exists_readAt_of_at? hread hat hfollow
        obtain ⟨whole, hwhole⟩ :=
          Expected.exists_readNode_of_readAt (ne_null_of_value? rfl) hinner
        rw [hdemand, readNode_closed_unknown hkey, reported_eq_ok_iff, bind_eq_ok_iff] at hwhole
        obtain ⟨-, -, hfails⟩ := hwhole
        cases hfails
    · rw [hdemand, readNode_closed_unknown hkey]

/-- A tree with its entries in another order and an unknown entry in its child, and a map with an
unknown key for a closed record. -/
theorem extract_rearranged_tree :
    let node : Node := .map [("v", .scalar (.integer 1)),
      ("children", .list [.map [("v", .scalar (.integer 2))]])]
    let node' : Node := .map [("children", .list [.map [("note", .list []),
      ("v", .scalar (.integer 2))]]), ("v", .scalar (.integer 1))]
    let datum : Datum := .record [("v", .integer 1),
      ("children", .series [.record [("v", .integer 2), ("children", .series [])]])]
    node.extract Catalog.schema (.declared .tree) = .ok datum ∧
      node'.extract Catalog.schema (.declared .tree) = .ok datum ∧
      ∃ error, (Node.map [("a", .scalar (.integer 1)), ("x", .scalar .null)]).extract
        Catalog.schema (.declared .strict) = .error error := by
  intro node node' datum
  have hnode : node.extract Catalog.schema (.declared .tree) = .ok datum := rfl
  obtain ⟨hsame, -⟩ := extract_rearranged_exact
    (@Catalog.typed_of_shape? "tree" (.declared .tree) rfl (by decide))
  obtain ⟨-, hstrict⟩ := extract_rearranged_exact
    (@Catalog.typed_of_shape? "strict" (.declared .strict) rfl (by decide))
  have hunknown : ChangedInside Catalog.schema (Rearranges Catalog.schema)
      (some (.shape (.declared .tree))) node
      (.map [("v", .scalar (.integer 1)),
        ("children", .list [.map [("note", .list []), ("v", .scalar (.integer 2))]])]) := by
    refine .inside (.entry "children" [_] []) (.inside (.item [] []) (.here ?_))
    exact .unknown rfl (by decide) [] (.list []) _
  have hreordered : ChangedInside Catalog.schema (Rearranges Catalog.schema)
      (some (.shape (.declared .tree)))
      (.map [("v", .scalar (.integer 1)),
        ("children", .list [.map [("note", .list []), ("v", .scalar (.integer 2))]])]) node' :=
    .here (.reordered (by decide) (.swap _ _ _))
  have hrearranged : Rearranged Catalog.schema (.shape (.declared .tree)) node node' :=
    .trans _ _ _ (.rel _ _ hunknown) (.rel _ _ hreordered)
  refine ⟨hnode, (hsame node node' hrearranged datum).1 hnode, ?_⟩
  obtain ⟨hfails, -⟩ := hstrict _ [] _ _ _ rfl rfl "x" (by decide)
    [("a", .scalar (.integer 1))] (.scalar .null) [] rfl
  exact hfails

end Placeholder
