import MarkTex.Config.Toml.Scalar
import MarkTex.Config.Toml.Tree

/-!
# Reading TOML

A TOML document is a sequence of lines: headers, assignments of values to keys, comments and blanks.
A header says which table the assignments after it belong to.
-/

namespace MarkTex.Config.Toml

/-! ## Blanks and comments -/

/-- The text after spaces and tabs. -/
def skipSpace (t : Text) : Text :=
  t.dropWhile fun c => c = ' ' || c = '\t'

/-- The text from the end of the line on, if a comment comes first. -/
def skipComment (t : Text) : Option Text :=
  match t with
  | '#' :: r =>
    let (comment, rest) := r.span (· != '\n')
    if comment.any isControl then none else some rest
  | t => some t

/-- The text after blanks, line ends and comments. `comment` says whether a comment is open. -/
def skipLines (comment : Bool) : Text → Option Text
  | [] => some []
  | c :: r =>
    if c = '\n' then skipLines false r
    else if comment then (if isControl c then none else skipLines true r)
    else if c = ' ' || c = '\t' then skipLines false r
    else if c = '#' then skipLines true r
    else some (c :: r)

/-! ## Keys -/

/-- Whether `c` may stand in a key without quotation marks. -/
def isKeyChar (c : Char) : Bool :=
  Text.isAsciiAlphanum c || c == '-' || c == '_'

/-- One part of a key. -/
def readKeyPart (t : Text) : Option (String × Text) :=
  match t with
  | '"' :: r => (readQuoted false .none r).map fun (s, rest) => (String.ofList s, rest)
  | '\'' :: r => (readLiteral r).map fun (s, rest) => (String.ofList s, rest)
  | t =>
    match t.span isKeyChar with
    | ([], _) => none
    | (part, rest) => some (String.ofList part, rest)

/-- The parts of a key between points, and the rest after blanks. `fuel` bounds the number of parts.
-/
def readKey (fuel : Nat) (t : Text) : Option (List String × Text) :=
  match fuel with
  | 0 => none
  | fuel + 1 =>
    match readKeyPart t with
    | none => none
    | some (part, r) =>
      match skipSpace r with
      | '.' :: r => (readKey fuel (skipSpace r)).map fun (parts, rest) => (part :: parts, rest)
      | r => some ([part], r)

/-! ## Values -/

mutual

/-- The value that a text starts with. `fuel` bounds the number of steps, and `room` is that for
collections. -/
def readValue (fuel room : Nat) (t : Text) : Except Fault (Value × Text) :=
  match fuel with
  | 0 => .error .malformed
  | fuel + 1 =>
    match t with
    | '"' :: _ => orMalformed ((readText t).map fun (s, rest) => (.str (String.ofList s), rest))
    | '\'' :: _ => orMalformed ((readText t).map fun (s, rest) => (.str (String.ofList s), rest))
    | '[' :: r => do
      let room ← takeRoom room 2 ""
      let (items, rest) ← readItems fuel room r
      return (.list items, rest)
    | '{' :: r => do
      let room ← takeRoom room 3 ""
      match skipSpace r with
      | '}' :: rest => return (.map [], rest)
      | r =>
        let (entries, rest) ← readInline fuel room [] r
        return (.map (entriesToValue entries), rest)
    | t => readBare t

/-- The items of a list up to its closing bracket. -/
def readItems (fuel room : Nat) (t : Text) : Except Fault (List Value × Text) :=
  match fuel with
  | 0 => .error .malformed
  | fuel + 1 =>
    match skipLines false t with
    | none => .error .malformed
    | some (']' :: rest) => .ok ([], rest)
    | some r =>
      match readValue fuel room r with
      | .error fault => .error fault
      | .ok (item, r) =>
        match skipLines false r with
        | some (']' :: rest) => .ok ([item], rest)
        | some (',' :: r) =>
          match readItems fuel room r with
          | .ok (items, rest) => .ok (item :: items, rest)
          | .error fault => .error fault
        | _ => .error .malformed

/-- The entries of a table on one line up to its closing brace, after those read before. -/
def readInline (fuel room : Nat) (entries : Entries) (t : Text) : Except Fault (Entries × Text) :=
  match fuel with
  | 0 => .error .malformed
  | fuel + 1 =>
    match readAssignment fuel room t with
    | .error fault => .error fault
    | .ok (key, value, r) =>
      match assign 0 value key entries with
      | none => .error .malformed
      | some entries =>
        match skipSpace r with
        | '}' :: rest => .ok (entries, rest)
        | ',' :: r => readInline fuel room entries (skipSpace r)
        | _ => .error .malformed

/-- A key and its value. -/
def readAssignment (fuel room : Nat) (t : Text) : Except Fault (List String × Value × Text) :=
  match fuel with
  | 0 => .error .malformed
  | fuel + 1 =>
    match readKey fuel t with
    | some (key, '=' :: r) =>
      match readValue fuel room (skipSpace r) with
      | .ok (value, rest) => .ok (key, value, rest)
      | .error fault => .error fault
    | _ => .error .malformed

end

/-! ## Documents -/

/-- A document that is being read: its tables, the path of the last header, and how many headers
there were. -/
structure Reading where
  entries : Entries := []
  header : List String := []
  part : Nat := 0

/-- The reading after a header, given the change that it makes where the path leads. -/
def Reading.enter (reading : Reading) (change : String → Entries → Option Entries)
    (path : List String) : Option Reading :=
  match path.getLast? with
  | none => none
  | some key =>
    (within (change key) path.dropLast reading.entries).map fun entries =>
      { entries, header := path, part := reading.part + 1 }

/-- The reading after an assignment. -/
def Reading.assign (reading : Reading) (key : List String) (value : Value) : Option Reading :=
  (within (Toml.assign reading.part value key) reading.header reading.entries).map fun entries =>
    { reading with entries }

/-- The reading after a header whose first bracket was read, and the rest. -/
def readHeader (fuel : Nat) (reading : Reading) (t : Text) : Option (Reading × Text) :=
  match t with
  | '[' :: r =>
    match readKey fuel (skipSpace r) with
    | some (path, ']' :: ']' :: rest) => (reading.enter append path).map fun next => (next, rest)
    | _ => none
  | r =>
    match readKey fuel (skipSpace r) with
    | some (path, ']' :: rest) => (reading.enter declare path).map fun next => (next, rest)
    | _ => none

/-- The reading after the statement that a line starts with, and the rest of the line. -/
def readStatement (fuel : Nat) (reading : Reading) (t : Text) : Except Fault (Reading × Text) :=
  match t with
  | [] => .ok (reading, t)
  | '\n' :: _ => .ok (reading, t)
  | '#' :: _ => .ok (reading, t)
  | '[' :: r => orMalformed (readHeader fuel reading r)
  | t =>
    match readAssignment fuel nestingRoom t with
    | .error fault => .error fault
    | .ok (key, value, rest) =>
      orMalformed ((reading.assign key value).map fun next => (next, rest))

/-- The reading after all lines. `fuel` bounds their number. -/
def readLines (fuel : Nat) (reading : Reading) (t : Text) : Except Fault Reading :=
  match fuel with
  | 0 => .ok reading
  | fuel + 1 =>
    match readStatement (2 * t.length + 2) reading (skipSpace t) with
    | .error fault => .error fault
    | .ok (next, r) =>
      match skipComment (skipSpace r) with
      | some [] => .ok next
      | some ('\n' :: rest) => readLines fuel next rest
      | _ => .error .malformed

/-- The text with each carriage return left out that stands before a line feed. -/
def dropReturns : Text → Text
  | '\r' :: '\n' :: r => '\n' :: dropReturns r
  | c :: r => c :: dropReturns r
  | [] => []

/-- The mapping that a TOML document is. -/
def read (t : Text) : Except Fault Value :=
  let t := dropReturns t
  (readLines (t.length + 1) {} t).map fun reading => .map (entriesToValue reading.entries)

end MarkTex.Config.Toml
