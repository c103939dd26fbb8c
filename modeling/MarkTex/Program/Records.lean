import MarkTex.Program.Failure
import MarkTex.Program.State

/-!
# Setting up the records of runs

Records are handled from a level on, in the error stream and, if a file is named for them, at the
end of that file as well. A file that cannot be opened is warned about.
-/

namespace MarkTex.Program

/-- The message about a file for records. -/
def fileNotice (level : Int) (message : String) : Log.Record where
  logger := Log.rootLogger
  level := level
  message := message

/-- The path that a value names: a text does, and so do bytes. -/
def logPath? (value : Value) : Option Path :=
  match value with
  | .str name => some (Path.ofString name)
  | .bytes name => some (Path.ofText (Text.decodeLossy name))
  | _ => none

/-- A path in quotation marks, in the way of the value that named it. -/
def quotePath (value : Value) (path : Path) : String :=
  match value with
  | .bytes _ => (Value.bytes (Text.encode path.toString.toList)).shown
  | _ => quote path.toString

/-- The state after a file for records was opened. -/
def State.openLog (s : State) (c : Context) (file : Value) (path : Path) : Except Failure State :=
  let name := file.plain
  let path := path.resolved c.directory
  match s.files.append [] path [] with
  | .ok files =>
    let s := { s with files := files, log := s.log.withFile path.names }
    .ok (s.record c (fileNotice Log.debug s!"Appending log records to {name}"))
  | .error .nullCharacter => .error .nullCharacter
  | .error cause =>
    .ok (s.record c (fileNotice Log.warning
      (s!"Could not open log file {name}: " ++ cause.report (quotePath file path))))

/-- The state after the handling of records was set up. -/
def State.configure (s : State) (c : Context) (level file : Value) (tracing : Bool) :
    State × Except Failure Unit :=
  let s := { s with log := Log.Setup.ofValue level tracing }
  if !file.truthy then (s, .ok ())
  else
    match logPath? file with
    | some path =>
      match s.openLog c file path with
      | .ok s => (s, .ok ())
      | .error failure => (s, .error failure)
    | none => (s, .error (.notPath file.typeName))

end MarkTex.Program
