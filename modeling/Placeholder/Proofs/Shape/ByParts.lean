import Placeholder.Proofs.Shape.Parts

/-!
# Reading by parts

A node that is read as a labelled demand first has its parts read, one after the other, each at its
own path.  It then says from their data alone what its own datum is, or why there is none, and
reports the failures that have not been reported.  Where it stands does not count for what it says.

`ByParts` is this of a computation at a path, and it is kept when a part is put in front and when
something is done with the result.  Main statement: `readNode_byParts`.  It does not hold of the
demands with alternatives that are not labelled, which report nothing.
-/

namespace Placeholder

open Node (childrenOfItems childrenOfEntries)

variable {ν : Type}

/-! ## The two halves of reading -/

/-- A computation at a path that first reads parts and then goes on from their data, without a look
at the path. -/
def ByParts {α : Type} (schema : Schema ν) (parts : List (Part ν))
    (run : Path → Except ExtractionError α) : Prop :=
  ∃ conclude : List Datum → Except Fault α, ∀ path, run path = do
    let data ← parts.mapM (·.readAt schema path)
    unreported (conclude data)

section ByParts

variable {schema : Schema ν} {parts : List (Part ν)} {α β : Type}
  {run : Path → Except ExtractionError α}

theorem ByParts.own (result : Except Fault α) :
    ByParts schema [] fun _ => unreported result :=
  ⟨fun _ => result, fun _ => by rw [List.mapM_nil, pure_bind]⟩

theorem ByParts.ok (result : α) : ByParts schema [] fun _ => .ok result := .own (.ok result)

theorem ByParts.andThen (h : ByParts schema parts run) (next : α → Except Fault β) :
    ByParts schema parts fun path => run path >>= fun result => unreported (next result) := by
  obtain ⟨conclude, hrun⟩ := h
  refine ⟨fun data => conclude data >>= next, fun path => ?_⟩
  simp only [hrun, bind_assoc]
  refine congrArg (_ >>= ·) (funext fun data => ?_)
  cases conclude data with
  | error cause => rfl
  | ok result => rfl

theorem ByParts.map (h : ByParts schema parts run) (f : α → β) :
    ByParts schema parts fun path => (run path).map f := by
  obtain ⟨conclude, hrun⟩ := h.andThen fun result => .ok (f result)
  refine ⟨conclude, fun path => (?_ : _ = _).trans (hrun path)⟩
  cases run path with
  | error error => rfl
  | ok result => rfl

/-- One more part in front, with a datum that is used after the rest has been read. -/
theorem ByParts.cons (part : Part ν) (h : ByParts schema parts run) (f : Datum → α → β) :
    ByParts schema (part :: parts) fun path =>
      part.readAt schema path >>= fun datum =>
        run path >>= fun result => pure (f datum result) := by
  obtain ⟨conclude, hrun⟩ := h
  refine ⟨fun data => (conclude data.tail).map (f (data.headD .unit)), fun path => ?_⟩
  simp only [List.mapM_cons, bind_assoc, pure_bind, hrun]
  refine congrArg (_ >>= ·) (funext fun datum => congrArg (_ >>= ·) (funext fun data => ?_))
  change (unreported (conclude data) >>= fun result => pure (f datum result)) =
    unreported ((conclude data).map (f datum))
  cases conclude data with
  | error cause => rfl
  | ok result => rfl

theorem ByParts.single (part : Part ν) (f : Datum → α) :
    ByParts schema [part] fun path => (part.readAt schema path).map f := by
  have hpart : ByParts schema [part] fun path =>
      part.readAt schema path >>= fun datum => .ok () >>= fun _ => pure (f datum) :=
    .cons part (.ok ()) fun datum _ => f datum
  obtain ⟨conclude, hrun⟩ := hpart
  refine ⟨conclude, fun path => (?_ : _ = _).trans (hrun path)⟩
  cases part.readAt schema path with
  | error error => rfl
  | ok datum => rfl

end ByParts

/-! ## Lists and maps -/

section

variable (schema : Schema ν) {admits : Segment → Bool} {inside? : Segment → Option (Expected ν)}

theorem readAll_byParts {inner : Shape ν} (hadmits : ∀ position, admits (.index position) = true)
    (hinside : ∀ position, inside? (.index position) = some (.shape inner)) (items : List Node)
    (position : Nat) :
    ByParts schema (partsOf admits inside? (childrenOfItems position items)) fun path =>
      readAll schema inner path position items := by
  induction items generalizing position with
  | nil =>
    simp only [readAll]
    exact .ok []
  | cons item rest ih =>
    rw [childrenOfItems, partsOf_read (hadmits position) (hinside position)]
    simp only [readAll]
    exact (ih (position + 1)).cons ⟨.index position, .shape inner, item⟩ List.cons

theorem readSeries_byParts (counted : String) {fields : List (Field ν)} {position : Nat}
    (hadmits : ∀ position, admits (.index position) = true)
    (hinside : ∀ i, inside? (.index (position + i)) = fields[i]?.map (.shape ·.shape))
    (items : List Node) :
    ByParts schema (partsOf admits inside? (childrenOfItems position items)) fun path =>
      readSeries schema counted fields path position items := by
  induction items generalizing fields position with
  | nil =>
    simp only [readSeries]
    exact .own _
  | cons item rest ih =>
    cases fields with
    | nil =>
      have hnone : ∀ child ∈ childrenOfItems position (item :: rest), inside? child.1 = none := by
        intro child hchild
        obtain ⟨i, hi⟩ := Node.exists_of_mem_childrenOfItems hchild
        rw [hi.1, hinside]
        rfl
      rw [partsOf_eq_nil hnone]
      simp only [readSeries]
      exact .ok []
    | cons field fields =>
      have hfield : inside? (.index position) = some (.shape field.shape) := hinside 0
      have hrest : ∀ i, inside? (.index (position + 1 + i)) = fields[i]?.map (.shape ·.shape) := by
        intro i
        rw [Nat.add_assoc, Nat.add_comm 1 i]
        exact hinside (i + 1)
      rw [childrenOfItems, partsOf_read (hadmits position) hfield]
      simp only [readSeries]
      exact (ih hrest).cons ⟨.index position, .shape field.shape, item⟩ List.cons

theorem readFields_byParts {fields : List (Field ν)} {closed : Bool}
    (hadmits : ∀ key, admits (.key key) = (!closed || (fields.find? (·.name = key)).isSome))
    (hinside : ∀ key, inside? (.key key) = (fields.find? (·.name = key)).map (.shape ·.shape))
    (entries : List (String × Node)) :
    ByParts schema (partsOf admits inside? (childrenOfEntries entries)) fun path =>
      readFields schema fields closed path entries := by
  induction entries with
  | nil =>
    simp only [readFields]
    exact .ok []
  | cons entry rest ih =>
    obtain ⟨key, child⟩ := entry
    rw [childrenOfEntries, List.map_cons, ← childrenOfEntries]
    cases hfound : fields.find? (·.name = key) with
    | some field =>
      rw [partsOf_read (by rw [hadmits, hfound]; simp) (by rw [hinside, hfound]; rfl)]
      simp only [readFields, hfound]
      exact ih.cons ⟨.key key, .shape field.shape, child⟩ fun datum data => (key, datum) :: data
    | none =>
      have hskip : inside? (.key key) = none := by rw [hinside, hfound]; rfl
      cases closed with
      | true =>
        rw [partsOf_stop (by rw [hadmits, hfound]; rfl)]
        simp only [readFields, hfound]
        exact .own (.error _)
      | false =>
        rw [partsOf_skip (by rw [hadmits]; rfl) hskip]
        simp only [readFields, hfound]
        exact ih

theorem readKey_eq {schema : Schema ν} {shape : KeyShape ν} {key key' : String}
    (h : readKey schema shape key = .ok key') : key' = key := by
  cases shape with
  | string => exact (Except.ok.inj h).symm
  | integer type => simp [readKey] at h
  | declared name =>
    rw [readKey] at h
    split at h
    · next choice variants hdeclared =>
      cases hvariant : findVariant variants key >>= bareVariant with
      | error cause =>
        rw [hvariant] at h
        cases h
      | ok datum =>
        rw [hvariant] at h
        exact (Except.ok.inj h).symm
    · cases h

theorem readEntries_byParts {keyShape : KeyShape ν} {inner : Shape ν}
    (hadmits : ∀ key, admits (.key key) = (readKey schema keyShape key).isOk)
    (hinside : ∀ key, inside? (.key key) = some (.shape inner))
    (entries : List (String × Node)) :
    ByParts schema (partsOf admits inside? (childrenOfEntries entries)) fun path =>
      readEntries schema keyShape inner path entries := by
  induction entries with
  | nil =>
    simp only [readEntries]
    exact .ok []
  | cons entry rest ih =>
    obtain ⟨key, child⟩ := entry
    rw [childrenOfEntries, List.map_cons, ← childrenOfEntries]
    cases hkey : readKey schema keyShape key with
    | error cause =>
      rw [partsOf_stop (by rw [hadmits, hkey]; rfl)]
      simp only [readEntries, hkey]
      exact .own (.error cause)
    | ok key' =>
      obtain rfl := readKey_eq hkey
      rw [partsOf_read (by rw [hadmits, hkey]; rfl) (hinside key')]
      simp only [readEntries, hkey]
      exact ih.cons ⟨.key key', .shape inner, child⟩ fun datum data => (key', datum) :: data

/-! ## Nodes -/

/-- The node is read by parts, and reports what fails under its path. -/
def ReadByParts (demand : Demand ν) (node : Node) : Prop :=
  ∃ run, ByParts schema (demand.parts schema node) run ∧
    ∀ path, readNode schema demand path node = reported path (run path)

variable {schema} {demand : Demand ν}

/-- A node without parts. -/
theorem ReadByParts.own {node : Node} (result : Except Fault Datum)
    (hnone : ∀ child ∈ node.children, demand.inside? node child.1 = none)
    (hread : ∀ path, readNode schema demand path node = reported path (unreported result)) :
    ReadByParts schema demand node := by
  have hparts : demand.parts schema node = [] := partsOf_eq_nil hnone
  refine ⟨fun _ => unreported result, ?_, hread⟩
  rw [hparts]
  exact .own result

theorem readScalar_byParts (hdemand : demand.labelled = true) (v : Value) :
    ReadByParts schema demand (.scalar v) := by
  have hnone : ∀ child ∈ (Node.scalar v).children, demand.inside? (.scalar v) child.1 = none :=
    fun _ hchild => absurd hchild List.not_mem_nil
  refine .own (readScalar demand v) hnone fun path => ?_
  cases demand with
  | value | node | path => simp [Demand.labelled] at hdemand
  | _ => simp only [readNode]

theorem readList_byParts (hdemand : demand.labelled = true) (items : List Node) :
    ReadByParts schema demand (.list items) := by
  cases demand with
  | value | node | path => simp [Demand.labelled] at hdemand
  | list inner =>
    have hitems : ByParts schema (Demand.parts schema (.list inner) (.list items)) fun path =>
        readAll schema inner path 0 items :=
      readAll_byParts schema (fun _ => rfl) (fun _ => rfl) items 0
    exact ⟨_, hitems.map .series, fun path => by simp only [readNode]⟩
  | series title counted shapes =>
    have hshapes : ∀ i : Nat, shapes[i]?.map Expected.shape =
        (seriesFields shapes)[i]?.map (fun field : Field ν => .shape field.shape) := by
      intro i
      rw [seriesFields, List.getElem?_map, Option.map_map]
      rfl
    have hitems : ByParts schema (Demand.parts schema (.series title counted shapes) (.list items))
        fun path => readSeries schema counted (seriesFields shapes) path 0 items :=
      readSeries_byParts schema counted (fun _ => rfl)
        (fun i => by rw [Nat.zero_add, ← hshapes]; rfl) items
    exact ⟨_, hitems.map .series, fun path => by simp only [readNode]⟩
  | record title fields closed =>
    have hitems : ByParts schema (Demand.parts schema (.record title fields closed) (.list items))
        fun path => readSeries schema (countedTitle title fields.length) fields path 0 items :=
      readSeries_byParts schema _ (fun _ => by cases closed <;> rfl)
        (fun i => by rw [Nat.zero_add]; rfl) items
    have hrecord := hitems.map fun data => Datum.record ((fields.map (·.name)).zip data)
    exact ⟨_, hrecord, fun path => by simp only [readNode]⟩
  | choice name variants =>
    exact .own (.error (.noVariant (Node.list items).kindName)) (fun _ _ => rfl) fun path => by
      simp only [readNode]
      rfl
  | sizes =>
    exact .own (.ok (countdown items.length)) (fun _ _ => rfl) fun path => by
      simp only [readNode]
      rfl
  | string | boolean | character | unit | integer | float | map | valueFirst =>
    exact .own (.error (.invalidType .sequence (Demand.title _))) (fun _ _ => rfl) fun path => by
      simp only [readNode]
      rfl

section

variable {name tag : String} {variants : List (Variant ν)} {variant : Variant ν}
  (hfound : variants.find? (·.name = tag) = some variant) (child : Node)

include hfound

/-- The data of a variant is the one part of a map with a single tag. -/
theorem readNode_tagged {expected : Expected ν}
    (hexpected : variant.payload.expected? name tag = some expected) (path : Path) :
    readNode schema (.choice name variants) path (.map [(tag, child)]) =
      reported path (((⟨.key tag, expected, child⟩ : Part ν).readAt schema path).map
        (.tagged tag)) := by
  obtain ⟨title, payload⟩ := variant
  simp only [readNode, findVariant, hfound]
  cases payload with
  | none => cases hexpected
  | single | series | record =>
    obtain rfl := Option.some.inj hexpected
    rfl

/-- A variant without data takes null for its data. -/
theorem readNode_bare (hexpected : variant.payload.expected? name tag = none) (path : Path) :
    readNode schema (.choice name variants) path (.map [(tag, child)]) =
      reported path (unreported (match child with
        | .scalar .null => .ok (.choice tag)
        | _ => .error (.unitVariantData tag child.kindName))) := by
  obtain ⟨title, payload⟩ := variant
  simp only [readNode, findVariant, hfound]
  cases payload with
  | none =>
    cases child with
    | scalar v => cases v <;> rfl
    | map entries => rfl
    | list items => rfl
  | single | series | record => cases hexpected

end

theorem readTag_byParts (name : String) (variants : List (Variant ν)) (tag : String)
    (child : Node) : ReadByParts schema (.choice name variants) (.map [(tag, child)]) := by
  have hinside : Demand.inside? (.choice name variants) (.map [(tag, child)]) (.key tag) =
      (variants.find? (·.name = tag)).bind fun variant => variant.payload.expected? name tag := rfl
  have hnone : Demand.inside? (.choice name variants) (.map [(tag, child)]) (.key tag) = none →
      ∀ other ∈ (Node.map [(tag, child)]).children,
        Demand.inside? (.choice name variants) (.map [(tag, child)]) other.1 = none := by
    intro hexpected other hother
    obtain rfl := List.mem_singleton.1 hother
    exact hexpected
  cases hfound : variants.find? (·.name = tag) with
  | none =>
    rw [hfound, Option.bind_none] at hinside
    let unknown : Fault := .unknownVariant tag (variants.map (·.name))
    refine .own (.error unknown) (hnone hinside) fun path => ?_
    simp only [readNode, findVariant, hfound]
    rfl
  | some variant =>
    rw [hfound, Option.bind_some] at hinside
    cases hexpected : variant.payload.expected? name tag with
    | none =>
      exact .own _ (hnone (hinside.trans hexpected)) (readNode_bare hfound child hexpected)
    | some expected =>
      have hparts : Demand.parts schema (.choice name variants) (.map [(tag, child)]) =
          [⟨.key tag, expected, child⟩] :=
        partsOf_read rfl (hinside.trans hexpected) child []
      refine ⟨_, ?_, readNode_tagged hfound child hexpected⟩
      rw [hparts]
      exact .single _ _

theorem readMap_byParts (hdemand : demand.labelled = true) (entries : List (String × Node)) :
    ReadByParts schema demand (.map entries) := by
  cases demand with
  | value | node | path => simp [Demand.labelled] at hdemand
  | map key inner =>
    have hentries : ByParts schema (Demand.parts schema (.map key inner) (.map entries)) fun path =>
        readEntries schema key inner path entries :=
      readEntries_byParts schema (fun _ => rfl) (fun _ => rfl) entries
    have hsorted := hentries.map fun data => Datum.map (sortEntries (keyBefore schema key) data)
    exact ⟨_, hsorted, fun path => by simp only [readNode]⟩
  | record title fields closed =>
    have hentries :
        ByParts schema (Demand.parts schema (.record title fields closed) (.map entries))
          fun path => readFields schema fields closed path entries :=
      readFields_byParts schema (fun _ => by cases closed <;> rfl) (fun _ => rfl) entries
    exact ⟨_, hentries.andThen (assemble fields), fun path => by simp only [readNode]⟩
  | choice name variants =>
    cases entries with
    | nil =>
      exact .own (.error (.noVariant (Node.map []).kindName)) (fun _ _ => rfl) fun path => by
        simp only [readNode]
        rfl
    | cons first rest =>
      cases rest with
      | nil => exact readTag_byParts name variants first.1 first.2
      | cons second rest =>
        exact .own (.error (.noVariant (Node.map (first :: second :: rest)).kindName))
          (fun _ _ => rfl) fun path => by
          simp only [readNode]
          rfl
  | valueFirst =>
    exact .own (.error .valueBeforeKey) (fun _ _ => rfl) fun path => by
      simp only [readNode]
      rfl
  | sizes =>
    exact .own (.ok (countdown entries.length)) (fun _ _ => rfl) fun path => by
      simp only [readNode]
      rfl
  | string | boolean | character | unit | integer | float | list | series =>
    exact .own (.error (.invalidType .map (Demand.title _))) (fun _ _ => rfl) fun path => by
      simp only [readNode]
      rfl

end

/-- A labelled demand reads a node by parts: first the parts one after the other, each at its own
path, then the node from their data alone. -/
theorem readNode_byParts (schema : Schema ν) {demand : Demand ν} (hdemand : demand.labelled = true)
    (node : Node) : ReadByParts schema demand node := by
  cases node with
  | scalar v => exact readScalar_byParts hdemand v
  | list items => exact readList_byParts hdemand items
  | map entries => exact readMap_byParts hdemand entries

end Placeholder
