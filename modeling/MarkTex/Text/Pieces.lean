import MarkTex.Text.Utf8

/-!
# Texts read in pieces

A text can be read in pieces of a fixed number of characters, so that what stands in front of bytes
that are no character is still seen. The bytes come in chunks. A chunk may end inside of a character
or between the two that end a line; what is cut off is held back for the next chunk. Bytes that are
no character are reported by their position in the chunk together with what was held back.
-/

namespace MarkTex.Text

/-- The characters of a piece. -/
def pieceLength : Nat := 4096

/-- The least number of bytes of a chunk, if there are so many. -/
def chunkLength : Nat := 8192

/-- A text that is being read. -/
structure Supply where
  bytes : Bytes
  /-- The bytes held back. -/
  held : Bytes := []
  /-- Whether a carriage return is held back. -/
  returning : Bool := false
  /-- The characters that were decoded and are part of no piece yet. -/
  ready : Text := []
  /-- The numbers of bytes and of characters of the last chunk. -/
  last : Nat × Nat := (1, 1)

namespace Supply

/-- The number of bytes of the next chunk, where `wanted` characters are missing: so many as they
would take if they took as many bytes each as those of the last chunk. -/
def chunkSize (s : Supply) (wanted : Nat) : Nat :=
  max chunkLength (if s.last.2 = 0 then wanted else max wanted (s.last.1 * wanted / s.last.2))

/-- The text of bytes, and those at the end that are cut short, unless the bytes are the last ones.
-/
def decodeChunk (bytes : Bytes) (final : Bool) : Except Utf8Fault (Text × Bytes) :=
  match decode bytes with
  | .ok t => .ok (t, [])
  | .error fault =>
    if fault.reason = .cutShort && !final then
      (decode (bytes.take fault.position)).map fun t => (t, bytes.drop fault.position)
    else .error fault

/-- The supply after the next chunk, whose characters are ready then, and whether there was one. -/
def readChunk (s : Supply) (wanted : Nat) : Except Utf8Fault (Supply × Bool) := do
  let size := s.chunkSize wanted
  let chunk := s.bytes.take size
  let final := chunk.isEmpty
  let (t, held) ← decodeChunk (s.held ++ chunk) final
  let t := if s.returning then '\r' :: t else t
  let returning := !final && t.getLast? = some '\r'
  let ready := unifyLineEnds (if returning then t.dropLast else t)
  let next : Supply :=
    { bytes := s.bytes.drop size, held, returning, ready, last := (chunk.length, ready.length) }
  return (next, !(final && ready.isEmpty))

/-- The rest of a piece that misses `wanted` characters, and the supply after it. `fuel` bounds the
number of chunks. -/
def readRest (fuel wanted : Nat) (s : Supply) : Except Utf8Fault (Text × Supply) :=
  let here := s.ready.take wanted
  let s := { s with ready := s.ready.drop wanted }
  match fuel, wanted - here.length with
  | 0, _ => .ok (here, s)
  | _, 0 => .ok (here, s)
  | fuel + 1, missing + 1 => do
    let (s, more) ← s.readChunk (missing + 1)
    if more then
      let (rest, s) ← readRest fuel (missing + 1) s
      return (here ++ rest, s)
    else return (here, s)

/-- The pieces of a text, and why there are no more of them if it is not read to its end. `fuel`
bounds their number. -/
def readPieces (fuel : Nat) (s : Supply) : List Text × Option Utf8Fault :=
  match fuel with
  | 0 => ([], none)
  | fuel + 1 =>
    match readRest (s.bytes.length + 2) pieceLength s with
    | .error fault => ([], some fault)
    | .ok ([], _) => ([], none)
    | .ok (piece, s) =>
      let (pieces, fault) := readPieces fuel s
      (piece :: pieces, fault)

end Supply

/-- The pieces of the text that bytes hold, with its lines ended alike, and why there are no more of
them if the text is not read to its end. -/
def pieces (bytes : Bytes) : List Text × Option Utf8Fault :=
  Supply.readPieces (bytes.length + 1) { bytes }

end MarkTex.Text
