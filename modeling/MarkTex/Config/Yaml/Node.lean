import MarkTex.Config.Yaml.Tag
import MarkTex.Config.Yaml.Token

/-!
# Nodes of YAML

The tokens of a YAML text form one document, a graph of texts, sequences and mappings. Every node
has a tag, which says what it stands for, and may have an anchor, by which a later alias repeats it.
The anchor of a collection is known inside of it, so that a collection may be a part of itself.
Nodes are numbered in the order in which they start.
-/

namespace MarkTex.Config.Yaml

/-- What a node consists of; the parts of collections are given by their numbers. -/
inductive Content where
  | scalar (text : Text)
  | sequence (items : List Nat)
  | mapping (entries : List (Nat × Nat))
  deriving DecidableEq, Repr

/-- A node of a document. -/
structure Node where
  tag : Tag
  content : Content
  deriving DecidableEq, Repr

/-- The nodes of a document, by their numbers. -/
abbrev Graph := Array Node

/-- The tokens still to be read, the room for collections around what comes next, and the nodes and
their anchors read so far. -/
structure Reading where
  tokens : List Token
  room : Nat := nestingRoom
  nodes : Graph := #[]
  anchors : List (Text × Nat) := []

/-- What handles of tags stand for. -/
abbrev Handles := List (Text × Text)

/-- What handles stand for without directives. -/
def defaultHandles : Handles :=
  [("!".toList, "!".toList), ("!!".toList, coreTag)]

/-- The anchor and the tag in front of a node. -/
structure Properties where
  anchor : Option Text := none
  tag : Option (Option Text × Text) := none

/-- Whether there is neither an anchor nor a tag. -/
def Properties.isEmpty (p : Properties) : Bool :=
  p.anchor.isNone && p.tag.isNone

/-- The properties in front of a node, and the tokens after them. -/
def takeProperties : List Token → Properties × List Token
  | .anchor name :: .tag handle rest :: ts => (⟨some name, some (handle, rest)⟩, ts)
  | .tag handle rest :: .anchor name :: ts => (⟨some name, some (handle, rest)⟩, ts)
  | .anchor name :: ts => (⟨some name, none⟩, ts)
  | .tag handle rest :: ts => (⟨none, some (handle, rest)⟩, ts)
  | ts => ({}, ts)

/-- The name of a tag, written out in full. -/
inductive TagName where
  /-- There is no tag. -/
  | none
  /-- The tag is a lone exclamation mark: the node is read by its looks, whatever marks it has. -/
  | bare
  | full (name : Text)
  deriving DecidableEq, Repr

/-- The name of a tag; it fails if the handle stands for nothing. -/
def resolveTag (handles : Handles) (tag : Option (Option Text × Text)) : Except Fault TagName :=
  let named (name : Text) : TagName := if name = ['!'] then .bare else .full name
  match tag with
  | none => .ok .none
  | some (none, rest) => .ok (named rest)
  | some (some handle, rest) => do
    let initial ← orMalformed (handles.lookup handle)
    return named (initial ++ rest)

/-- The tag of a text. -/
def TagName.ofScalar (name : TagName) (text : Text) (plain : Bool) : Tag :=
  match name with
  | none => if plain then .ofPlain text else .text
  | bare => .ofPlain text
  | full name => .ofName name

/-- The tag of a collection that has the given tag by itself. -/
def TagName.ofCollection (name : TagName) (own : Tag) : Tag :=
  match name with
  | full name => .ofName name
  | _ => own

/-- The fault of tokens that nothing can start with here. -/
def faultAt : List Token → Fault
  | .unreadable cause :: _ => .value cause
  | _ => .malformed

/-- Whether a token cannot be read. -/
def Token.isUnreadable : Token → Bool
  | unreadable _ => true
  | _ => false

namespace Reading

/-- The reading with one more node, and its number. The anchor of a node may be set only once. -/
def add (reading : Reading) (anchor : Option Text) (node : Node) : Except Fault (Nat × Reading) :=
  let id := reading.nodes.size
  let nodes := reading.nodes.push node
  match anchor with
  | none => .ok (id, { reading with nodes })
  | some name =>
    if (reading.anchors.lookup name).isSome then .error .malformed
    else .ok (id, { reading with nodes, anchors := (name, id) :: reading.anchors })

/-- The reading with one more node that is an empty plain text, and its number. -/
def addEmpty (reading : Reading) : Nat × Reading :=
  (reading.nodes.size, { reading with nodes := reading.nodes.push ⟨.null, .scalar []⟩ })

/-- The reading with the content of a node set. -/
def fill (reading : Reading) (id : Nat) (content : Content) : Reading :=
  { reading with nodes := reading.nodes.modify id fun node => { node with content } }

end Reading

/-- Whether a token ends an item of a block sequence. -/
def Token.endsItem : Token → Bool
  | blockEntry => true
  | blockEnd => true
  | _ => false

/-- Whether a token ends a key or value of a block mapping. -/
def Token.endsPart : Token → Bool
  | key => true
  | value => true
  | blockEnd => true
  | _ => false

/-- Whether a token ends an item of a sequence that is not indented more than its mapping. -/
def Token.endsFlatItem (t : Token) : Bool :=
  t.endsItem || t.endsPart

/-- Whether a token ends a value in brackets or braces. -/
def Token.endsFlowValue : Token → Bool
  | entry => true
  | closeSequence => true
  | closeMapping => true
  | _ => false

/-- Whether a token ends a key in brackets or braces. -/
def Token.endsFlowKey : Token → Bool
  | value => true
  | t => t.endsFlowValue

/-- Where a node may stand. -/
inductive Place where
  /-- In brackets or braces: no block collection may stand there. -/
  | flow
  /-- Among block collections. -/
  | block
  /-- In a block mapping: the items of a sequence may have the same indentation. -/
  | part
  deriving DecidableEq

/-- The ways to write a collection. -/
inductive Style where
  | flowSequence
  | flowMapping
  | blockSequence
  | blockMapping
  /-- A sequence that is not indented more than its mapping. -/
  | flatSequence
  deriving DecidableEq

/-- The collection of a style before its parts are read. -/
def Style.start : Style → Node
  | flowMapping => ⟨.mapping, .mapping []⟩
  | blockMapping => ⟨.mapping, .mapping []⟩
  | _ => ⟨.sequence, .sequence []⟩

/-- What the tokens ahead start. -/
inductive Start where
  | scalar (text : Text) (plain : Bool)
  | collection (style : Style)

/-- What the tokens ahead start at a place, if anything, and the tokens after its first one. The
first token of a sequence that is not indented is that of its first item. -/
def startAt (place : Place) (tokens : List Token) : Option (Start × List Token) :=
  match tokens with
  | .scalar text plain :: ts => some (.scalar text plain, ts)
  | .openSequence :: ts => some (.collection .flowSequence, ts)
  | .openMapping :: ts => some (.collection .flowMapping, ts)
  | .blockSequence :: ts => if place = .flow then none else some (.collection .blockSequence, ts)
  | .blockMapping :: ts => if place = .flow then none else some (.collection .blockMapping, ts)
  | .blockEntry :: _ => if place = .part then some (.collection .flatSequence, tokens) else none
  | _ => none

/-- What comes next in a collection in brackets or braces. -/
inductive FlowStep where
  /-- The collection ends before these tokens. -/
  | done (rest : List Token)
  /-- Another part starts with these tokens. -/
  | part (tokens : List Token)

/-- What comes next in a collection in brackets or braces that a token ends. All parts but the first
come after a comma, and the last one may have a comma after it. -/
def nextFlow (ends : Token → Bool) (first : Bool) (tokens : List Token) : Except Fault FlowStep :=
  let step (tokens : List Token) : FlowStep :=
    match tokens with
    | [] => .part []
    | t :: ts => if ends t then .done ts else .part (t :: ts)
  match step tokens with
  | .done rest => .ok (.done rest)
  | .part tokens =>
    if first then .ok (.part tokens)
    else
      match tokens with
      | .entry :: ts => .ok (step ts)
      | ts => .error (faultAt ts)

/-- Whether a token ends a sequence in brackets. -/
def Token.closesSequence : Token → Bool
  | closeSequence => true
  | _ => false

/-- Whether a token ends a mapping in braces. -/
def Token.closesMapping : Token → Bool
  | closeMapping => true
  | _ => false

/-- The parts of a block mapping or of a mapping in braces. -/
abbrev EntryIds := List (Nat × Nat)

mutual

/-- The number of the node that comes next. `fuel` bounds the number of steps. -/
def readNode (fuel : Nat) (handles : Handles) (place : Place) (reading : Reading) :
    Except Fault (Nat × Reading) :=
  match fuel with
  | 0 => .error .malformed
  | fuel + 1 =>
    match reading.tokens with
    | .alias name :: ts => do
      let id ← orMalformed (reading.anchors.lookup name)
      return (id, { reading with tokens := ts })
    | tokens => do
      let (properties, ts) := takeProperties tokens
      let isBroken := ts.head?.any Token.isUnreadable
      if isBroken && properties.anchor.isNone then .error (faultAt ts)
      let name ← resolveTag handles properties.tag
      match startAt place ts with
      | some (.scalar text plain, ts) =>
        let node : Node := ⟨name.ofScalar text plain, .scalar text⟩
        Reading.add { reading with tokens := ts } properties.anchor node
      | some (.collection style, ts) =>
        let start := style.start
        let node := { start with tag := name.ofCollection start.tag }
        let (id, reading) ← Reading.add { reading with tokens := ts } properties.anchor node
        let outer := reading.room
        let room ← takeRoom outer 2 ""
        let (content, reading) ← readContent fuel handles style { reading with room }
        return (id, { reading with room := outer }.fill id content)
      | none =>
        if properties.isEmpty || isBroken then .error (faultAt ts)
        else
          let node : Node := ⟨name.ofScalar [] true, .scalar []⟩
          Reading.add { reading with tokens := ts } properties.anchor node

/-- The content of a collection of the given style. -/
def readContent (fuel : Nat) (handles : Handles) (style : Style) (reading : Reading) :
    Except Fault (Content × Reading) :=
  match fuel with
  | 0 => .error .malformed
  | fuel + 1 =>
    let sequence (read : Except Fault (List Nat × Reading)) :
        Except Fault (Content × Reading) :=
      read.map fun (items, reading) => (.sequence items, reading)
    let mapping (read : Except Fault (EntryIds × Reading)) :
        Except Fault (Content × Reading) :=
      read.map fun (entries, reading) => (.mapping entries, reading)
    match style with
    | .flowSequence => sequence (readFlowItems fuel handles true reading)
    | .flowMapping => mapping (readFlowEntries fuel handles true reading)
    | .blockSequence => sequence (readItems fuel handles reading)
    | .blockMapping => mapping (readEntries fuel handles reading)
    | .flatSequence => sequence (readFlatItems fuel handles reading)

/-- The number of the node that comes next, or of an empty one before a token that `ends` says ends
its place. -/
def readPart (fuel : Nat) (handles : Handles) (place : Place) (ends : Token → Bool)
    (reading : Reading) : Except Fault (Nat × Reading) :=
  match fuel with
  | 0 => .error .malformed
  | fuel + 1 =>
    if reading.tokens.head?.any ends then .ok reading.addEmpty
    else readNode fuel handles place reading

/-- The number of the value after a key, that of an empty node if there is none. -/
def readValue (fuel : Nat) (handles : Handles) (place : Place) (ends : Token → Bool)
    (reading : Reading) : Except Fault (Nat × Reading) :=
  match fuel with
  | 0 => .error .malformed
  | fuel + 1 =>
    match reading.tokens with
    | .value :: ts => readPart fuel handles place ends { reading with tokens := ts }
    | _ => .ok reading.addEmpty

/-- The items of a block sequence. -/
def readItems (fuel : Nat) (handles : Handles) (reading : Reading) :
    Except Fault (List Nat × Reading) :=
  match fuel with
  | 0 => .error .malformed
  | fuel + 1 =>
    match reading.tokens with
    | .blockEntry :: ts => do
      let (item, reading) ←
        readPart fuel handles .block Token.endsItem { reading with tokens := ts }
      let (items, reading) ← readItems fuel handles reading
      return (item :: items, reading)
    | .blockEnd :: ts => .ok ([], { reading with tokens := ts })
    | ts => .error (faultAt ts)

/-- The items of a sequence that is not indented more than its mapping. -/
def readFlatItems (fuel : Nat) (handles : Handles) (reading : Reading) :
    Except Fault (List Nat × Reading) :=
  match fuel with
  | 0 => .error .malformed
  | fuel + 1 =>
    match reading.tokens with
    | .blockEntry :: ts => do
      let (item, reading) ←
        readPart fuel handles .block Token.endsFlatItem { reading with tokens := ts }
      let (items, reading) ← readFlatItems fuel handles reading
      return (item :: items, reading)
    | _ => .ok ([], reading)

/-- The entries of a block mapping. -/
def readEntries (fuel : Nat) (handles : Handles) (reading : Reading) :
    Except Fault (EntryIds × Reading) :=
  match fuel with
  | 0 => .error .malformed
  | fuel + 1 =>
    match reading.tokens with
    | .key :: ts => do
      let (key, reading) ← readPart fuel handles .part Token.endsPart { reading with tokens := ts }
      let (value, reading) ← readValue fuel handles .part Token.endsPart reading
      let (entries, reading) ← readEntries fuel handles reading
      return ((key, value) :: entries, reading)
    | .blockEnd :: ts => .ok ([], { reading with tokens := ts })
    | ts => .error (faultAt ts)

/-- The items of a sequence in brackets. A key makes a mapping of one entry. -/
def readFlowItems (fuel : Nat) (handles : Handles) (first : Bool) (reading : Reading) :
    Except Fault (List Nat × Reading) :=
  match fuel with
  | 0 => .error .malformed
  | fuel + 1 =>
    match nextFlow Token.closesSequence first reading.tokens with
    | .error fault => .error fault
    | .ok (.done rest) => .ok ([], { reading with tokens := rest })
    | .ok (.part (.key :: ts)) => do
      let (key, reading) ←
        readPart fuel handles .flow Token.endsFlowKey { reading with tokens := ts }
      let (value, reading) ← readValue fuel handles .flow Token.endsFlowValue reading
      let (item, reading) ← reading.add none ⟨.mapping, .mapping [(key, value)]⟩
      let (items, reading) ← readFlowItems fuel handles false reading
      return (item :: items, reading)
    | .ok (.part ts) => do
      let (item, reading) ← readNode fuel handles .flow { reading with tokens := ts }
      let (items, reading) ← readFlowItems fuel handles false reading
      return (item :: items, reading)

/-- The entries of a mapping in braces. -/
def readFlowEntries (fuel : Nat) (handles : Handles) (first : Bool) (reading : Reading) :
    Except Fault (EntryIds × Reading) :=
  match fuel with
  | 0 => .error .malformed
  | fuel + 1 =>
    match nextFlow Token.closesMapping first reading.tokens with
    | .error fault => .error fault
    | .ok (.done rest) => .ok ([], { reading with tokens := rest })
    | .ok (.part (.key :: ts)) => do
      let (key, reading) ←
        readPart fuel handles .flow Token.endsFlowKey { reading with tokens := ts }
      let (value, reading) ← readValue fuel handles .flow Token.endsFlowValue reading
      let (entries, reading) ← readFlowEntries fuel handles false reading
      return ((key, value) :: entries, reading)
    | .ok (.part ts) => do
      let (key, reading) ← readNode fuel handles .flow { reading with tokens := ts }
      let (value, reading) := reading.addEmpty
      let (entries, reading) ← readFlowEntries fuel handles false reading
      return ((key, value) :: entries, reading)

end

/-! ## Documents -/

/-- What handles stand for after the directives ahead, and the tokens after those. Only the first
version of YAML is read, and neither it nor a handle may be set twice. -/
def readDirectives (version : Bool) (handles : Handles) :
    List Token → Except Fault (Handles × List Token)
  | .directive (.version major) :: ts =>
    if version || major != 1 then .error .malformed else readDirectives true handles ts
  | .directive (.tag handle initial) :: ts =>
    if (handles.lookup handle).isSome then .error .malformed
    else readDirectives version ((handle, initial) :: handles) ts
  | .directive .other :: ts => readDirectives version handles ts
  | ts => .ok (handles ++ defaultHandles, ts)

/-- Whether the tokens ahead set documents apart. -/
def Token.isMark : Token → Bool
  | directive _ => true
  | documentStart => true
  | documentEnd => true
  | _ => false

/-- A document: its nodes, and the number of the one that is all of it. -/
structure Document where
  nodes : Graph
  root : Nat
  deriving DecidableEq, Repr

/-- The document that consists of an empty node. -/
def Document.empty : Document where
  nodes := #[⟨.null, .scalar []⟩]
  root := 0

/-- The document that comes next, and the tokens after it. -/
def readDocument (tokens : List Token) : Except Fault (Document × List Token) :=
  let fuel := 4 * tokens.length + 4
  let content (handles : Handles) (ts : List Token) : Except Fault (Document × List Token) :=
    (readNode fuel handles .block { tokens := ts }).map fun (root, reading) =>
      (⟨reading.nodes, root⟩, reading.tokens)
  match tokens with
  | .documentEnd :: _ => .error .malformed
  | _ =>
    if tokens.head?.any Token.isMark then
      match readDirectives false [] tokens with
      | .ok (handles, .documentStart :: ts) =>
        if ts.isEmpty || ts.head?.any Token.isMark then .ok (.empty, ts) else content handles ts
      | .ok (_, ts) => .error (faultAt ts)
      | .error fault => .error fault
    else content defaultHandles tokens

/-- Whether a token is the end of a document. -/
def Token.isEnd : Token → Bool
  | documentEnd => true
  | _ => false

/-- The only document of a text, an empty one if there is none. `wall` tells why the text is not
known to its end, if it is not. -/
def readOnly (t : Text) (wall : Option ValueFault) : Except Fault Document :=
  match tokens t wall with
  | none => .error .malformed
  | some [] => .ok .empty
  | some ts =>
    match readDocument ts with
    | .ok (document, rest) =>
      match rest.dropWhile Token.isEnd with
      | [] => .ok document
      | more =>
        match readDirectives false [] more with
        | .ok (_, next) => .error (faultAt next)
        | .error fault => .error fault
    | .error fault => .error fault

end MarkTex.Config.Yaml
