import Placeholder.Proofs.Shape.ByParts
import Placeholder.Shape.Catalog

/-!
# Where reading fails

A node hands its path down to its children, and a failure keeps the path of the innermost node that
reported it.  For labelled types this is the same as reading every child as if it were the root, and
putting its segment in front of the path on the way up (`exists_readNode_eq`).

So the path of a failure leads to the node that cannot be read: read alone, as what is expected
where it stands, it fails for the same cause and all its own parts are read (`exists_located`).

Main statement, for the shapes of the catalog: `extract_error_exact`.
-/

namespace Placeholder

variable {ν : Type}

/-! ## Results in sequence -/

section Except

variable {α β ε : Type} {f g : α → Except ε β} {items : List α}

theorem mapM_mapError {change : ε → ε} (h : ∀ item ∈ items, f item = (g item).mapError change) :
    items.mapM f = (items.mapM g).mapError change := by
  induction items with
  | nil => rfl
  | cons item rest ih =>
    rw [List.mapM_cons, List.mapM_cons, h item List.mem_cons_self,
      ih fun other hother => h other (List.mem_cons_of_mem _ hother)]
    cases g item with
    | error error => rfl
    | ok value =>
      cases rest.mapM g with
      | error error => rfl
      | ok values => rfl

theorem exists_of_mapM_error {error : ε} (h : items.mapM f = .error error) :
    ∃ item ∈ items, f item = .error error := by
  induction items with
  | nil => cases h
  | cons item rest ih =>
    rw [List.mapM_cons] at h
    cases hitem : f item with
    | error other =>
      rw [hitem] at h
      obtain rfl : other = error := Except.error.inj h
      exact ⟨item, List.mem_cons_self, hitem⟩
    | ok value =>
      cases hrest : rest.mapM f with
      | error other =>
        rw [hitem, hrest] at h
        obtain rfl : other = error := Except.error.inj h
        obtain ⟨found, hmem, hfound⟩ := ih hrest
        exact ⟨found, List.mem_cons_of_mem _ hmem, hfound⟩
      | ok values =>
        rw [hitem, hrest] at h
        cases h

theorem exists_of_mapM_ok {values : List β} (h : items.mapM f = .ok values) :
    ∀ item ∈ items, ∃ value, f item = .ok value := by
  induction items generalizing values with
  | nil => exact fun item hmem => absurd hmem List.not_mem_nil
  | cons item rest ih =>
    rw [List.mapM_cons] at h
    cases hitem : f item with
    | error other =>
      rw [hitem] at h
      cases h
    | ok value =>
      cases hrest : rest.mapM f with
      | error other =>
        rw [hitem, hrest] at h
        cases h
      | ok others =>
        intro found hmem
        rcases List.mem_cons.1 hmem with rfl | hmem
        · exact ⟨value, hitem⟩
        · exact ih hrest found hmem

theorem exists_of_mapError_error {ε' : Type} {change : ε → ε'} {result : Except ε α} {error : ε'}
    (h : result.mapError change = .error error) :
    ∃ inner, result = .error inner ∧ error = change inner := by
  cases result with
  | error inner => exact ⟨inner, rfl, (Except.error.inj h).symm⟩
  | ok value => cases h

theorem eq_ok_of_mapError {change : ε → ε} {result : Except ε α} {value : α}
    (h : result.mapError change = .ok value) : result = .ok value := by
  cases result with
  | error inner => cases h
  | ok other => exact h

end Except

theorem Shape.finish_mapError (shape : Shape ν) (child : Node)
    (result : Except ExtractionError Datum) (change : ExtractionError → ExtractionError) :
    shape.finish child (result.mapError change) = (shape.finish child result).mapError change := by
  unfold finish
  split
  · rfl
  · cases result with
    | error error => rfl
    | ok datum => rfl

theorem Shape.error_of_finish {shape : Shape ν} {child : Node}
    {result : Except ExtractionError Datum} {error : ExtractionError}
    (h : shape.finish child result = .error error) : result = .error error := by
  unfold finish at h
  split at h
  · cases h
  · cases result with
    | error other => exact h
    | ok datum => cases h

/-! ## Failures seen from further up -/

/-- The failure of a node at a path, seen from where the path begins. -/
def ExtractionError.under (path : Path) (error : ExtractionError) : ExtractionError :=
  { error with path := path ++ error.path }

theorem mapError_under_nil {α : Type} (result : Except ExtractionError α) :
    result.mapError (·.under []) = result := by
  cases result with
  | error error => rfl
  | ok value => rfl

theorem mapError_under_append (first second : Path) {α : Type} (result : Except ExtractionError α) :
    result.mapError (·.under (first ++ second)) =
      (result.mapError (·.under second)).mapError (·.under first) := by
  cases result with
  | error error =>
    have hpath : first ++ second ++ error.path = first ++ (second ++ error.path) :=
      List.append_assoc ..
    exact congrArg (fun path => Except.error { error with path }) hpath
  | ok value => rfl

/-- A failure that is seen from further up has a path already, unless there is none to give. -/
theorem ExtractionError.reportedAt_under (error : ExtractionError) (path : Path) :
    (error.under path).reportedAt path = error.under path := by
  rw [reportedAt]
  split
  · next hpath =>
    have hnil : path = (error.under path).path := by
      rw [hpath, (List.append_eq_nil_iff.1 hpath).1]
    exact congrArg (fun path => { error with path }) hnil
  · rfl

/-- A node reports under its path what its parts report under theirs and what it says itself. -/
theorem reported_under {α : Type} (path : Path) (result : Except ExtractionError α)
    (conclude : α → Except Fault Datum) :
    reported path (result.mapError (·.under path) >>= fun data => unreported (conclude data)) =
      (result >>= fun data => unreported (conclude data)).mapError (·.under path) := by
  cases result with
  | error error => exact congrArg Except.error (error.reportedAt_under path)
  | ok data =>
    change reported path (unreported (conclude data)) =
      (unreported (conclude data)).mapError (·.under path)
    cases conclude data with
    | error cause =>
      have hreported : ({ fault := cause } : ExtractionError).reportedAt path =
          { fault := cause, path } := rfl
      have hunder : ({ fault := cause } : ExtractionError).under path = { fault := cause, path } :=
        congrArg (ExtractionError.mk cause) (List.append_nil path)
      exact congrArg Except.error (hreported.trans hunder.symm)
    | ok datum => rfl

/-- A part, read alone and seen from the node. -/
def Part.readInside (schema : Schema ν) (part : Part ν) : Except ExtractionError Datum :=
  (part.readAlone schema).mapError (·.under [part.segment])

/-- What a node comes to by its parts, each read alone, and by what it says of their data. -/
def readParts (schema : Schema ν) (parts : List (Part ν))
    (conclude : List Datum → Except Fault Datum) : Except ExtractionError Datum := do
  let data ← parts.mapM (·.readInside schema)
  unreported (conclude data)

/-- What is expected where a path leads to in a node. -/
def Expected.at? (schema : Schema ν) (expected : Expected ν) (node : Node) :
    Path → Option (Expected ν)
  | [] => some expected
  | segment :: rest => do
    let inner ← (expected.demand schema).inside? node segment
    let child ← node.child? segment
    inner.at? schema child rest

/-! ## Paths on the way down and on the way up -/

section

variable {schema : Schema ν}

theorem Expected.readAt_under {expected : Expected ν} {node : Node} {path : Path}
    (h : readNode schema (expected.demand schema) path node =
      (readNode schema (expected.demand schema) [] node).mapError (·.under path)) :
    expected.readAt schema path node =
      (expected.readAt schema [] node).mapError (·.under path) := by
  cases expected with
  | shape inner =>
    have hread : readNode schema (Demand.ofShape schema inner) path node = _ := h
    simp only [readAt, Node.extractAt, hread, Shape.finish_mapError]
    rfl
  | payload inner => exact h

theorem Expected.readNode_of_readAt (expected : Expected ν) {path : Path} {node : Node}
    {error : ExtractionError} (h : expected.readAt schema path node = .error error) :
    readNode schema (expected.demand schema) path node = .error error := by
  cases expected with
  | shape inner => exact Shape.error_of_finish h
  | payload inner => exact h

/-- If the parts fail at any path as they do alone, with the path in front, then so does the node,
and its failures are those of its parts seen from the node, or its own. -/
theorem exists_readNode_eq_of_parts {demand : Demand ν} (hdemand : demand.labelled = true)
    {node : Node} (hparts : ∀ part ∈ demand.parts schema node, ∀ path,
      readNode schema (part.expected.demand schema) path part.child =
        (readNode schema (part.expected.demand schema) [] part.child).mapError (·.under path)) :
    ∃ conclude : List Datum → Except Fault Datum, ∀ path,
      readNode schema demand path node =
        (readParts schema (demand.parts schema node) conclude).mapError (·.under path) := by
  obtain ⟨run, ⟨conclude, hrun⟩, hread⟩ := readNode_byParts schema hdemand node
  refine ⟨conclude, fun path => ?_⟩
  have hmapM : (demand.parts schema node).mapM (Part.readAt schema path) =
      ((demand.parts schema node).mapM (Part.readInside schema)).mapError (·.under path) := by
    refine mapM_mapError fun part hmem => ?_
    have hpart := Expected.readAt_under (hparts part hmem (path ++ [part.segment]))
    rw [mapError_under_append] at hpart
    exact hpart
  rw [hread, hrun, hmapM, reported_under, readParts]

variable (hschema : ∀ name, (schema name).labelled = true)

include hschema

/-- A node fails at a path as it does at the root, and the path comes in front. -/
theorem readNode_under {demand : Demand ν} (hdemand : demand.labelled = true) (node : Node)
    (path : Path) :
    readNode schema demand path node =
      (readNode schema demand [] node).mapError (·.under path) := by
  have hparts : ∀ part ∈ demand.parts schema node, ∀ path,
      readNode schema (part.expected.demand schema) path part.child =
        (readNode schema (part.expected.demand schema) [] part.child).mapError (·.under path) := by
    intro part hmem path
    have hsmaller : sizeOf part.child < sizeOf node :=
      Node.sizeOf_lt_of_mem_children (mem_partsOf hmem).1
    have hpart := Expected.labelled_demand hschema (labelled_of_mem_parts hdemand hmem)
    exact readNode_under hpart part.child path
  obtain ⟨conclude, hread⟩ := exists_readNode_eq_of_parts hdemand hparts
  rw [hread path, hread [], mapError_under_nil]
termination_by sizeOf node

/-- Reading at a path comes to reading the parts alone, putting the segment of each in front of its
failure, and putting the path in front of what fails in the end. -/
theorem exists_readNode_eq {demand : Demand ν} (hdemand : demand.labelled = true) (node : Node) :
    ∃ conclude : List Datum → Except Fault Datum, ∀ path,
      readNode schema demand path node =
        (readParts schema (demand.parts schema node) conclude).mapError (·.under path) := by
  refine exists_readNode_eq_of_parts hdemand fun part hmem path => ?_
  have hpart := Expected.labelled_demand hschema (labelled_of_mem_parts hdemand hmem)
  exact readNode_under hschema hpart part.child path

/-! ## From the root to the failure -/

/-- A node fails by itself when all its parts are read, or a part of it fails, as seen from the
node. -/
theorem readNode_error {demand : Demand ν} (hdemand : demand.labelled = true) {node : Node}
    {error : ExtractionError} (h : readNode schema demand [] node = .error error) :
    (error.path = [] ∧
      ∀ part ∈ demand.parts schema node, ∃ datum, part.readAlone schema = .ok datum) ∨
    ∃ part ∈ demand.parts schema node, ∃ inner,
      part.readAlone schema = .error inner ∧ error = inner.under [part.segment] := by
  obtain ⟨conclude, hread⟩ := exists_readNode_eq hschema hdemand node
  rw [hread, mapError_under_nil, readParts] at h
  cases hparts : (demand.parts schema node).mapM (Part.readInside schema) with
  | error inner =>
    rw [hparts] at h
    obtain rfl : inner = error := Except.error.inj h
    obtain ⟨part, hmem, hfails⟩ := exists_of_mapM_error hparts
    exact .inr ⟨part, hmem, exists_of_mapError_error hfails⟩
  | ok data =>
    rw [hparts] at h
    have hown : unreported (conclude data) = .error error := h
    obtain ⟨cause, -, rfl⟩ := exists_of_mapError_error hown
    refine .inl ⟨rfl, fun part hmem => ?_⟩
    obtain ⟨datum, hdatum⟩ := exists_of_mapM_ok hparts part hmem
    exact ⟨datum, eq_ok_of_mapError hdatum⟩

/-- Every failure is located: its path leads to a node that fails by itself, for the same cause. -/
theorem exists_located {expected : Expected ν} (hexpected : expected.labelled = true) {node : Node}
    (hnode : node.Distinct) {error : ExtractionError}
    (h : expected.readAt schema [] node = .error error) :
    ∃ found inner, expected.at? schema node error.path = some found ∧
      node.follow? error.path = some inner ∧
      found.readAt schema [] inner = .error { fault := error.fault } ∧
      ∀ part ∈ (found.demand schema).parts schema inner,
        ∃ datum, part.readAlone schema = .ok datum := by
  obtain ⟨cause, path⟩ := error
  induction path generalizing expected node with
  | nil =>
    have hread := expected.readNode_of_readAt h
    rcases readNode_error hschema (Expected.labelled_demand hschema hexpected) hread with
      ⟨-, hparts⟩ | ⟨part, -, inner, -, heq⟩
    · exact ⟨expected, node, rfl, rfl, h, hparts⟩
    · cases congrArg ExtractionError.path heq
  | cons segment rest ih =>
    have hread := expected.readNode_of_readAt h
    have hdemand := Expected.labelled_demand hschema hexpected
    rcases readNode_error hschema hdemand hread with
      ⟨hpath, -⟩ | ⟨part, hmem, ⟨cause', rest'⟩, halone, heq⟩
    · cases hpath
    · obtain ⟨rfl, hpath⟩ := ExtractionError.mk.inj heq
      obtain ⟨rfl, hrest⟩ := List.cons.inj hpath
      obtain rfl : rest = rest' := hrest
      obtain ⟨hchild, hinside⟩ := mem_partsOf hmem
      have hstep := Node.child?_of_mem_children hnode hchild
      obtain ⟨found, deeper, hat, hfollow, hfails, hparts⟩ :=
        ih (labelled_of_mem_parts hdemand hmem) (Node.distinct_of_mem_children hnode hchild) halone
      refine ⟨found, deeper, ?_, ?_, hfails, hparts⟩
      · simp only [Expected.at?, hinside, hstep]
        exact hat
      · rw [Node.follow?, hstep]
        exact hfollow

/-- What is expected anywhere inside a labelled type is labelled. -/
theorem Expected.labelled_of_at? {expected found : Expected ν}
    (hexpected : expected.labelled = true) {node : Node} {path : Path}
    (h : expected.at? schema node path = some found) : found.labelled = true := by
  induction path generalizing expected node with
  | nil =>
    obtain rfl := Option.some.inj h
    exact hexpected
  | cons segment rest ih =>
    obtain ⟨inner, hinside, hrest⟩ := Option.bind_eq_some_iff.1 h
    obtain ⟨child, -, hat⟩ := Option.bind_eq_some_iff.1 hrest
    have hdemand := Expected.labelled_demand hschema hexpected
    exact ih (Demand.labelled_of_inside? hdemand hinside) hat

end

/-! ## The catalog -/

namespace Catalog

theorem labelled_schema (name : Name) : (schema name).labelled = true := by
  cases name <;> rfl

/-- All shapes but four are labelled. -/
theorem labelled_of_shape? {name : String} {shape : Shape Name} (hshape : shape? name = some shape)
    (hname : name ∉ ["value", "vec_value", "node", "path"]) : shape.labelled = true := by
  have hall : ∀ pair ∈ shapes, pair.1 ∉ ["value", "vec_value", "node", "path"] →
      pair.2.labelled = true := by
    decide
  exact hall (name, shape) (Entries.mem_of_get? hshape) hname

end Catalog

/-- A shape of the catalog, but for the four that have alternatives without labels, read from a
structure without repeated keys.  If it fails, its path leads to a node of the structure, the root
if the path is empty: what is expected there, read from that node alone, fails for the same cause
and without a path, and all parts that this asks for are read.  And whatever is expected inside the
shape, reading it at a path comes to reading its parts alone, each with its segment put in front of
its failure, and putting the path in front of what fails in the end. -/
theorem extract_error_exact {name : String} {shape : Shape Catalog.Name}
    (hshape : Catalog.shape? name = some shape)
    (hname : name ∉ ["value", "vec_value", "node", "path"]) {node : Node} (hnode : node.Distinct) :
    (∀ error, node.extract Catalog.schema shape = .error error →
      ∃ found inner, (Expected.shape shape).at? Catalog.schema node error.path = some found ∧
        node.follow? error.path = some inner ∧
        found.readAt Catalog.schema [] inner = .error { fault := error.fault } ∧
        ∀ part ∈ (found.demand Catalog.schema).parts Catalog.schema inner,
          ∃ datum, part.readAlone Catalog.schema = .ok datum) ∧
    ∀ place found, (Expected.shape shape).at? Catalog.schema node place = some found →
      ∀ inner, ∃ conclude : List Datum → Except Fault Datum, ∀ path,
        readNode Catalog.schema (found.demand Catalog.schema) path inner =
          (readParts Catalog.schema ((found.demand Catalog.schema).parts Catalog.schema inner)
            conclude).mapError (·.under path) := by
  have hschema := Catalog.labelled_schema
  have hlabelled : (Expected.shape shape).labelled = true :=
    Catalog.labelled_of_shape? hshape hname
  refine ⟨fun error herror => exists_located hschema hlabelled hnode herror, ?_⟩
  intro place found hfound inner
  have hfound := Expected.labelled_of_at? hschema hlabelled hfound
  exact exists_readNode_eq hschema (Expected.labelled_demand hschema hfound) inner

/-- A list of channels with a text for a number in the second item of a pair. -/
theorem extract_error_channel :
    let node : Node := .list [.scalar (.string "Email"),
      .map [("Pair", .list [.scalar (.string "a"), .scalar (.string "b")])]]
    node.extract Catalog.schema (.list (.declared .channel)) =
      .error { fault := .invalidType (.string "b") "i32"
               path := [.index 1, .key "Pair", .index 1] } ∧
    ∃ found inner, (Expected.shape (.list (.declared .channel))).at? Catalog.schema node
        [.index 1, .key "Pair", .index 1] = some found ∧
      node.follow? [.index 1, .key "Pair", .index 1] = some inner ∧
      found.readAt Catalog.schema [] inner =
        .error { fault := .invalidType (.string "b") "i32" } := by
  intro node
  have herror : node.extract Catalog.schema (.list (.declared .channel)) =
      .error { fault := .invalidType (.string "b") "i32"
               path := [.index 1, .key "Pair", .index 1] } := by
    rfl
  have hshape : Catalog.shape? "vec_channel" = some (.list (.declared .channel)) := by
    rfl
  have hnode : node.Distinct := by
    decide
  obtain ⟨hlocated, -⟩ := extract_error_exact hshape (by decide) hnode
  obtain ⟨found, inner, hat, hfollow, hfails, -⟩ := hlocated _ herror
  exact ⟨herror, found, inner, hat, hfollow, hfails⟩

end Placeholder
