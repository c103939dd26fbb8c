import MarkTex.Config.Fault
import MarkTex.Config.Yaml.Node

/-!
# Merged mappings

An entry whose key merges stands for the entries of the mapping that is its value, or of the
mappings of the sequence that is. They come in front of the entries that are written in the mapping
itself, those of the last mapping of a sequence first, so that what comes later counts. A mapping
keeps what was merged into it: wherever else it is merged or repeated, it has the same entries.
-/

namespace MarkTex.Config.Yaml

/-- Entries of a mapping: the numbers of their keys and values. -/
abbrev Entries := List (Nat × Nat)

namespace Graph

/-- The tag of a node. -/
def tag (graph : Graph) (id : Nat) : Tag :=
  match graph[id]? with
  | some node => node.tag
  | none => .unknown

/-- The content of a node. -/
def content (graph : Graph) (id : Nat) : Content :=
  match graph[id]? with
  | some node => node.content
  | none => .scalar []

/-- The entries of a node, if it is a mapping. -/
def entries? (graph : Graph) (id : Nat) : Option Entries :=
  match graph.content id with
  | .mapping entries => some entries
  | _ => none

/-- The graph with the entries of a mapping set. -/
def setEntries (graph : Graph) (id : Nat) (entries : Entries) : Graph :=
  graph.modify id fun node => { node with content := .mapping entries }

/-- The graph with the tag of a node set. -/
def setTag (graph : Graph) (id : Nat) (tag : Tag) : Graph :=
  graph.modify id fun node => { node with tag }

/-- The graph in which the keys of some entries that stand for their mapping are plain texts. -/
def settleKeys (graph : Graph) (entries : Entries) : Graph :=
  entries.foldl
    (fun graph (key, _) => if graph.tag key = .default then graph.setTag key .text else graph) graph

/-- The value of the first entry whose key merges, and the other entries. -/
def takeMerge (graph : Graph) : Entries → Option (Nat × Entries)
  | [] => none
  | (key, value) :: rest =>
    if graph.tag key = .merge then some (value, rest)
    else (graph.takeMerge rest).map fun (merged, others) => (merged, (key, value) :: others)

/-- The number of all parts of all collections. -/
def partCount (graph : Graph) : Nat :=
  graph.foldl
    (fun n node =>
      match node.content with
      | .scalar _ => n
      | .sequence items => n + items.length
      | .mapping entries => n + entries.length)
    0

end Graph

mutual

/-- The graph with the entries merged that a mapping asks for, where `merged` are those that were
merged so far. `fuel` bounds the number of steps. -/
def mergeInto (fuel : Nat) (id : Nat) (merged : Entries) (graph : Graph) : Except Fault Graph :=
  match fuel with
  | 0 => .ok graph
  | fuel + 1 =>
    let entries := (graph.entries? id).getD []
    match graph.takeMerge entries with
    | none =>
      .ok (Graph.setEntries (graph.settleKeys entries) id (merged ++ entries))
    | some (value, others) => do
      let (more, graph) ← mergedEntries fuel value (graph.setEntries id others)
      mergeInto fuel id (merged ++ more) graph

/-- The entries that the value of a merging key stands for. -/
def mergedEntries (fuel : Nat) (value : Nat) (graph : Graph) : Except Fault (Entries × Graph) :=
  match fuel with
  | 0 => .ok ([], graph)
  | fuel + 1 =>
    match graph.content value with
    | .mapping _ => do
      let graph ← mergeInto fuel value [] graph
      return ((graph.entries? value).getD [], graph)
    | .sequence items => mergedItems fuel items graph
    | .scalar _ => .error .malformed

/-- The entries of the mappings of a sequence, last mapping first. -/
def mergedItems (fuel : Nat) (items : List Nat) (graph : Graph) : Except Fault (Entries × Graph) :=
  match fuel, items with
  | 0, _ => .ok ([], graph)
  | _, [] => .ok ([], graph)
  | fuel + 1, item :: items =>
    match graph.entries? item with
    | none => .error .malformed
    | some _ => do
      let graph ← mergeInto fuel item [] graph
      let entries := (graph.entries? item).getD []
      let (more, graph) ← mergedItems fuel items graph
      return (more ++ entries, graph)

end

/-- The graph after a mapping took in the entries that it merges. Merging an entry takes it away,
and the mappings of a sequence are merged one by one, so that no more steps lie inside each other
than there are pairs of parts. -/
def Graph.merge (graph : Graph) (id : Nat) : Except Fault Graph :=
  if (graph.takeMerge ((graph.entries? id).getD [])).isNone then mergeInto 1 id [] graph
  else
    let count := graph.partCount
    mergeInto ((count + 2) * (count + 4)) id [] graph

end MarkTex.Config.Yaml
