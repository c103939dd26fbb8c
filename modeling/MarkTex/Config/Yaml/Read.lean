import MarkTex.Config.Yaml.Build
import MarkTex.Text.Pieces
import MarkTex.Value.Slots

/-!
# Reading YAML

The value of a YAML document. A collection may be a part of itself; its value is written out once,
and where it comes again in itself the value is a cycle. Mappings that only group the entries of the
document are no parts of the values in them, so that they are written out once more inside of those.
-/

namespace MarkTex.Config.Yaml

/-- The value of a node, where `around` are the collections that it is a part of. `grouping` says
whether these are mappings that only group entries. `fuel` bounds the number of collections inside
each other. -/
def writeOut (fuel : Nat) (shapes : Array (Option Shape)) (grouping : Bool) (around : List Nat)
    (id : Nat) : Value :=
  match fuel with
  | 0 => .null
  | fuel + 1 =>
    let outer := if grouping then [] else around
    match (shapes[id]?).getD none with
    | none => .null
    | some (.leaf value) => value
    | some (.set members) => .set (Value.inSlotOrder members)
    | some (.list items) =>
      if outer.contains id then .cycle false
      else .list (items.map (writeOut fuel shapes false (id :: outer)))
    | some (.pairs items) =>
      if outer.contains id then .cycle false
      else
        let part := writeOut fuel shapes false (id :: outer)
        .list (items.map fun (first, second) => .pair (part first) (part second))
    | some (.map entries) =>
      if around.contains id then .cycle true
      else .map (entries.map fun (key, value) =>
        (key, writeOut fuel shapes grouping (id :: around) value))

/-- The value of a document. -/
def Document.toValue (document : Document) : Except Fault Value := do
  let b ← document.build
  return writeOut (2 * document.nodes.size + 2) b.shapes true [] document.root

/-- The value of the document that a text is, null if there is none. `wall` tells why the text is
not known to its end, if it is not. -/
def read (t : Text) (wall : Option ValueFault) : Except Fault Value :=
  match readOnly t wall with
  | .ok document => document.toValue
  | .error fault => .error fault

/-- The value of the document that bytes hold. Nothing is read before two pieces of the text are
there. -/
def readBytes (bytes : Bytes) : Except Fault Value :=
  match Text.pieces bytes with
  | (pieces, none) => read pieces.flatten none
  | (pieces, some cause) =>
    let known := if pieces.length < 2 then [] else pieces.flatten
    read known (some (.undecodable cause))

end MarkTex.Config.Yaml
