import MarkTex.Program.Failure
import MarkTex.Program.State

/-!
# Files of runs

Sources are read from files or from the input stream, and what is made is written to files. Each
file that is written is noted.
-/

namespace MarkTex.Program

/-- The logger of messages about runs. -/
def logger : String := "md2latex.cli"

/-- The text of the file at a path, with its lines ended alike. -/
def readText (c : Context) (files : FileTree) (path : Path) : Except Failure Text :=
  match files.read c.directory path with
  | .error cause => .error (.ofReading path cause)
  | .ok bytes =>
    match Text.decode bytes with
    | .error cause => .error (.undecodable path cause)
    | .ok text => .ok (Text.unifyLineEnds text)

/-- The text of the input stream, with its lines ended alike. -/
def readInput (c : Context) : Except Failure Text :=
  match Text.decode c.input with
  | .error cause => .error (.undecodableInput cause)
  | .ok text => .ok (Text.unifyLineEnds text)

/-- The text of a source: a hyphen stands for the input stream. -/
def readSource (c : Context) (files : FileTree) (source : Text) : Except Failure Text :=
  if source = ['-'] then readInput c else readText c files (Path.ofText source)

/-- The message about a file that was written. -/
def writtenNotice (logger : String) (path : Path) : Log.Record where
  logger := logger
  level := Log.info
  message := s!"Wrote {path}"

/-- The state after the file at a path was written and noted. -/
def State.writeFile (s : State) (c : Context) (logger : String) (path : Path) (content : Bytes) :
    Except Failure State :=
  match s.files.write c.directory path content with
  | .error cause => .error (.ofWriting path cause)
  | .ok files => .ok ({ s with files := files }.record c (writtenNotice logger path))

/-- The path that a setting names. -/
def pathOf (value : Value) : Except Failure Path :=
  match value with
  | .str s => .ok (Path.ofString s)
  | .bytes _ => .error .bytesPath
  | v => .error (.notPath v.typeName)

/-- The state after the file that a setting names was written and noted. -/
def State.writeTo (s : State) (c : Context) (target : Value) (content : Bytes) :
    Except Failure State :=
  match pathOf target with
  | .error failure => .error failure
  | .ok path => s.writeFile c logger path content

end MarkTex.Program
