import Placeholder.Proofs.Collecting
import Placeholder.Proofs.Engine.Leaves
import Placeholder.Proofs.Node.Keys

/-!
# Keys in insertion order

A map has each key once, and its keys stand in the order in which they have come first.  That is so
of every map that is built from entries, however it is built, and it stays so when a structure is
resolved and on the way from JSON and to JSON.

Main statement: `insertionOrder_exact`.
-/

namespace Placeholder.Engine

open Entries (Collects LastUnder)

variable {σ : Type} (engine : Engine σ)

/-- Whatever its texts are resolved to, a map has the keys that it had. -/
theorem keysAt?_resolveNode (node : Node) (state : σ) (path : Path) :
    ((resolveNode engine node).run state).result.keysAt? path = node.keysAt? path := by
  rw [run_resolveNode]
  exact Node.keysAt?_refill node _ path

theorem distinct_resolveNode {node : Node} (hnode : node.Distinct) (state : σ) :
    ((resolveNode engine node).run state).result.Distinct := by
  rw [run_resolveNode]
  exact Node.distinct_refill hnode _

theorem resolveEntries_eq_mapM (entries : List (String × Node)) :
    resolveEntries engine entries = entries.mapM fun (key, child) => do
      let child ← resolveNode engine child
      return (key, child) := by
  induction entries with
  | nil => rfl
  | cons entry rest ih =>
    obtain ⟨key, child⟩ := entry
    rw [resolveEntries, List.mapM_cons, ih, bind_assoc]
    simp only [pure_bind]

/-- Where no key comes twice, a map is resolved by collecting what its entries are resolved to, one
after the other. -/
theorem resolveNode_map_of_distinct {entries : List (String × Node)}
    (hentries : Entries.Distinct entries) :
    resolveNode engine (.map entries) = (do
      let resolved ← entries.mapM fun (key, child) => do
        let child ← resolveNode engine child
        return (key, child)
      return Node.ofEntries resolved) := by
  rw [resolveNode, ← resolveEntries_eq_mapM]
  funext state
  have hkeys : Entries.Distinct ((resolveEntries engine entries).run state).result := by
    rw [run_resolveEntries]
    exact Node.entries_distinct_refillEntries hentries _
  have hcollected : Node.ofEntries ((resolveEntries engine entries).run state).result =
      .map ((resolveEntries engine entries).run state).result := Node.ofEntries_of_distinct hkeys
  change Session.run _ state = Session.run _ state
  simp only [Session.run_bind, Session.run_pure, hcollected]

/-- A list of entries is collected to a map that has each key of the list once, in the order in
which the keys come first, with the value that comes last under it; that value is found under the
key, and nothing under any other.  Putting the entries into an empty map one by one gives the same
map, and so does every map of entries with these keys in this order and with these values.  If no
key is repeated inside the children, none is in the map, at any depth.  What is no map stays as it
is, whatever is put into it.

At every place of a structure, the keys of the map that is there stay the same and in the same order
when the structure is resolved, whatever the engine and its state, and on the way to JSON and from
JSON; no key is repeated at any depth afterwards if none has been before.  Each of the three makes of
a map without repeated keys what is collected from what becomes of its entries, one after the
other. -/
theorem insertionOrder_exact (state : σ) (entries : List (String × Node)) (node : Node)
    (json : Json) :
    let collected := Node.ofEntries entries
    let resolved := ((resolveNode engine node).run state).result
    (∃ built, collected = .map built ∧ Entries.Distinct built ∧ Collects entries built) ∧
    entries.foldl (fun built (key, child) => Node.insert built key child) (.map []) = collected ∧
    Node.map (entries.foldl (fun built (key, child) => Entries.insert built key child) []) =
      collected ∧
    (∀ built, Node.map built = collected ↔ Collects entries built) ∧
    (∀ key, (∀ child, collected.get? key = some child ↔ LastUnder entries key child) ∧
      (collected.get? key = none ↔ key ∉ Entries.keys entries)) ∧
    (Node.EntriesDistinct entries → collected.Distinct) ∧
    (∀ other : Node, other.isMap = false →
      entries.foldl (fun built (key, child) => Node.insert built key child) other = other) ∧
    (∀ path, resolved.keysAt? path = node.keysAt? path ∧
      node.toJson.keysAt? path = node.keysAt? path ∧
      (Node.ofJson json).keysAt? path = json.keysAt? path) ∧
    (node.Distinct → resolved.Distinct ∧ node.toJson.Distinct ∧
      ∀ path keys, node.keysAt? path = some keys → keys.Nodup) ∧
    (json.Distinct → (Node.ofJson json).Distinct ∧
      ∀ path keys, json.keysAt? path = some keys → keys.Nodup) ∧
    (∀ children, Entries.Distinct children →
      resolveNode engine (.map children) = (do
        let resolved ← children.mapM fun (key, child) => do
          let child ← resolveNode engine child
          return (key, child)
        return Node.ofEntries resolved) ∧
      (Node.map children).toJson =
        .object (Entries.ofList (children.map fun (key, child) => (key, child.toJson)))) ∧
    ∀ fields, Entries.Distinct fields →
      Node.ofJson (.object fields) =
        Node.ofEntries (fields.map fun (key, field) => (key, Node.ofJson field)) := by
  intro collected resolved
  have hcollects : Collects entries (Entries.ofList entries) := Entries.collects_ofList entries
  have honly : ∀ built, Node.map built = collected ↔ Collects entries built := by
    intro built
    constructor
    · intro heq
      rw [Node.map.inj heq]
      exact hcollects
    · intro hbuilt
      exact congrArg Node.map (hbuilt.unique hcollects)
  refine ⟨⟨_, rfl, hcollects.distinct, hcollects⟩, Node.foldl_insert_map entries [], rfl, honly,
    fun key => ⟨hcollects.get?_eq_some_iff key, hcollects.get?_eq_none_iff key⟩,
    Node.distinct_ofEntries, fun other hother => ?_, fun path => ?_, fun hnode => ?_,
    fun hjson => ?_, fun children hchildren => ?_, fun fields hfields => ?_⟩
  · exact Node.foldl_insert_of_isMap_eq_false hother entries
  · exact ⟨keysAt?_resolveNode engine node state path, Node.keysAt?_toJson node path,
      Node.keysAt?_ofJson json path⟩
  · exact ⟨distinct_resolveNode engine hnode state, Node.distinct_toJson hnode,
      fun _ _ => Node.nodup_of_keysAt? hnode⟩
  · have hnode := Node.distinct_ofJson hjson
    refine ⟨hnode, fun path keys hkeys => ?_⟩
    rw [← Node.keysAt?_ofJson] at hkeys
    exact Node.nodup_of_keysAt? hnode hkeys
  · exact ⟨resolveNode_map_of_distinct engine hchildren, Node.toJson_map_of_distinct hchildren⟩
  · exact Node.ofJson_object_of_distinct hfields

/-- A key that comes twice with another one in between; a list, into which nothing can be put; and
maps inside lists inside maps, with a key that looks like a token. -/
theorem insertionOrder_repeated :
    let counting : Macro Counters :=
      (BuiltInMacro.computed (StockProducer.counter.produce 0) "int" "" .any).toMacro
    let engine : Engine Counters := { macros := ⟨[("n", counting)], List.nodup_singleton _⟩ }
    let inner : Node := .map [("z", .scalar (.string "{{ n }}")), ("a", .scalar .null)]
    let entries : List (String × Node) :=
      [("b", .scalar (.integer 1)), ("a", .list []), ("b", inner)]
    let node : Node := .map [("{{ n }}", .list [inner]), ("", .scalar (.string "{{ n }}"))]
    let json : Json := .object [("2", .array [.object [("1", .null), ("0", .null)]])]
    let collected := Node.ofEntries entries
    let resolved := ((resolveNode engine node).run ⟨[4]⟩).result
    collected = .map [("b", inner), ("a", .list [])] ∧
      collected.get? "b" = some inner ∧ collected.get? "z" = none ∧ collected.Distinct ∧
      entries.foldl (fun built (key, child) => Node.insert built key child) (.list []) = .list [] ∧
      resolved.Distinct ∧ resolved.keysAt? [] = some ["{{ n }}", ""] ∧
      resolved.keysAt? [.key "{{ n }}", .index 0] = some ["z", "a"] ∧
      (Node.ofJson json).Distinct ∧
      (Node.ofJson json).keysAt? [.key "2", .index 0] = some ["1", "0"] := by
  intro counting engine inner entries node json collected resolved
  obtain ⟨-, -, -, -, hget, hcollected, hother, hkeys, hnode, hjson, -⟩ :=
    insertionOrder_exact engine ⟨[4]⟩ entries node json
  have hlast : LastUnder entries "b" inner :=
    ⟨[("b", .scalar (.integer 1)), ("a", .list [])], [], rfl, by decide⟩
  have hchildren : Node.EntriesDistinct entries := ⟨trivial, trivial, by decide, trivial⟩
  have hobject : json.Distinct :=
    ⟨by decide, ⟨⟨by decide, trivial, trivial, trivial⟩, trivial⟩, trivial⟩
  exact ⟨rfl, ((hget "b").1 inner).2 hlast, (hget "z").2.2 (by decide), hcollected hchildren,
    hother (.list []) rfl, (hnode (by decide)).1, (hkeys []).1, (hkeys _).1, (hjson hobject).1,
    (hkeys _).2.2⟩

end Placeholder.Engine
