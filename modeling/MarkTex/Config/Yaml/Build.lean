import MarkTex.Config.Yaml.Leaf
import MarkTex.Config.Yaml.Merge

/-!
# What nodes stand for

Every node of a document stands for one thing, however often it is repeated. A text stands for its
value as soon as it is come upon. A collection waits for its turn, and then its parts are come upon
in order; so of several faults the one is reported that is least deep in the document. A key has to
be a value that is no collection, and a key that comes again gives its first entry a new value.
-/

namespace MarkTex.Config.Yaml

/-- What a node stands for; the parts of collections are given by their numbers. -/
inductive Shape where
  | leaf (value : Value)
  | list (items : List Nat)
  | pairs (items : List (Nat × Nat))
  | map (entries : List (Value × Nat))
  | set (members : List Value)

/-- What is known of the nodes of a document. -/
structure Building where
  graph : Graph
  shapes : Array (Option Shape)
  /-- The collections that wait for their turn, last one first. -/
  waiting : List Nat := []

/-- The text that a node stands for under the tag of a text: a mapping stands for the text that the
first of its keys with the right tag stands for. `fuel` bounds the number of mappings inside each
other. -/
def textOf (fuel : Nat) (graph : Graph) (id : Nat) : Except Fault Text :=
  match fuel with
  | 0 => .error (.value (.tooDeep ""))
  | fuel + 1 =>
    match graph.content id with
    | .scalar text => .ok text
    | .sequence _ => .error .malformed
    | .mapping entries =>
      match entries.find? fun (key, _) => graph.tag key = .default with
      | some (_, value) => textOf fuel graph value
      | none => .error .malformed

/-- Whether a node is a text. -/
def Graph.isScalar (graph : Graph) (id : Nat) : Bool :=
  match graph.content id with
  | .scalar _ => true
  | _ => false

/-- The value of a node under the tag of a text. -/
def leafOf (graph : Graph) (id : Nat) : Except Fault Value := do
  let text ← textOf (graph.size + 1) graph id
  let tag := graph.tag id
  if tag = .moment && !graph.isScalar id then .error (.value .momentMapping)
  else readLeaf tag text

/-- The collection of a tag before its parts are known. -/
def startShape : Tag → Option Shape
  | .sequence => some (.list [])
  | .mapping => some (.map [])
  | .set => some (.set [])
  | .pairs => some (.pairs [])
  | _ => none

/-- Whether a tag is that of a text. -/
def Tag.isLeaf : Tag → Bool
  | .null => true
  | .bool => true
  | .int => true
  | .float => true
  | .binary => true
  | .moment => true
  | .text => true
  | _ => false

namespace Building

/-- What is known before any node is come upon. -/
def ofGraph (graph : Graph) : Building where
  graph := graph
  shapes := Array.replicate graph.size none

/-- The shape of a node that was come upon. -/
def shape? (b : Building) (id : Nat) : Option Shape :=
  (b.shapes[id]?).getD none

/-- What is known with the shape of a node set. -/
def setShape (b : Building) (id : Nat) (shape : Shape) : Building :=
  { b with shapes := b.shapes.setIfInBounds id (some shape) }

/-- What is known after a node was come upon. -/
def visit (b : Building) (id : Nat) : Except Fault Building :=
  if (b.shape? id).isSome then .ok b
  else
    let tag := b.graph.tag id
    match startShape tag with
    | some shape => .ok { b.setShape id shape with waiting := id :: b.waiting }
    | none =>
      if tag.isLeaf then (leafOf b.graph id).map fun value => b.setShape id (.leaf value)
      else .error .malformed

/-- What is known after some nodes were come upon, in order. -/
def visitAll (b : Building) : List Nat → Except Fault Building
  | [] => .ok b
  | id :: ids =>
    match b.visit id with
    | .ok b => b.visitAll ids
    | .error fault => .error fault

/-- The value of a node that can be a key. -/
def keyOf (b : Building) (id : Nat) : Except Fault Value :=
  match b.shape? id with
  | some (.leaf value) => .ok value
  | _ => .error .malformed

/-- The entries of a mapping after those that were read, and what is known then. -/
def visitEntries (b : Building) (read : List (Value × Nat)) :
    Entries → Except Fault (List (Value × Nat) × Building)
  | [] => .ok (read, b)
  | (key, value) :: rest => do
    let b ← b.visit key
    let k ← b.keyOf key
    let b ← b.visit value
    visitEntries b (Value.put k value read) rest

/-- The entries of a node that has to be a mapping, and what is known then. -/
def visitMapping (b : Building) (id : Nat) : Except Fault (List (Value × Nat) × Building) :=
  match b.graph.entries? id with
  | none => .error .malformed
  | some _ => do
    let graph ← b.graph.merge id
    visitEntries { b with graph } [] ((graph.entries? id).getD [])

/-- The pairs of a sequence of mappings of one entry each, and what is known then. -/
def visitPairs (b : Building) : List Nat → Except Fault (List (Nat × Nat) × Building)
  | [] => .ok ([], b)
  | item :: items =>
    match b.graph.entries? item with
    | some [(key, value)] => do
      let b ← b.visitAll [key, value]
      let (pairs, b) ← b.visitPairs items
      return ((key, value) :: pairs, b)
    | _ => .error .malformed

/-- What is known after the turn of a collection. -/
def complete (b : Building) (id : Nat) : Except Fault Building :=
  match b.graph.tag id, b.graph.content id with
  | .sequence, .sequence items => do
    let b ← b.visitAll items
    return b.setShape id (.list items)
  | .pairs, .sequence items => do
    let (pairs, b) ← b.visitPairs items
    return b.setShape id (.pairs pairs)
  | .mapping, _ => do
    let (entries, b) ← b.visitMapping id
    return b.setShape id (.map entries)
  | .set, _ => do
    let (entries, b) ← b.visitMapping id
    return b.setShape id (.set (entries.map (·.1)))
  | _, _ => .error .malformed

/-- What is known after the turns of some collections, in order. -/
def completeAll (b : Building) : List Nat → Except Fault Building
  | [] => .ok b
  | id :: ids =>
    match b.complete id with
    | .ok b => b.completeAll ids
    | .error fault => .error fault

/-- What is known when no collection waits any more. Each of them waits once, so `fuel` only has to
be more than the number of nodes. -/
def finish (fuel : Nat) (b : Building) : Except Fault Building :=
  match fuel, b.waiting with
  | 0, _ => .ok b
  | _, [] => .ok b
  | fuel + 1, id :: ids =>
    match completeAll { b with waiting := [] } (id :: ids).reverse with
    | .ok b => finish fuel b
    | .error fault => .error fault

end Building

/-- What the nodes of a document stand for. -/
def Document.build (document : Document) : Except Fault Building := do
  let b ← (Building.ofGraph document.nodes).visit document.root
  Building.finish (document.nodes.size + 1) b

end MarkTex.Config.Yaml
