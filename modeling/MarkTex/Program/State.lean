import MarkTex.CommandLine.Defaults
import MarkTex.Engine.Compile
import MarkTex.Log.Setup

/-!
# What a run is given and what it changes

A run is given a directory, the environment, its input and the engines that are installed. It
changes files, writes to two streams and sets up how records are handled.
-/

namespace MarkTex.Program

/-- What a run is given. -/
structure Context where
  /-- The names of the directory that paths start from. -/
  directory : List String := []
  /-- The names of the home directory. -/
  home : List String := []
  environment : CommandLine.Variables := []
  input : Bytes := []
  engine : Engine.Name → Option Engine.Installed := fun _ => none
  /-- The directory that documents are compiled in. -/
  scratch : Path := Path.absolute ["tmp"]
  /-- The time that records show. -/
  time : String := ""

/-- What a run changes. -/
structure State where
  files : FileTree := {}
  output : Text := []
  errors : Text := []
  log : Log.Setup := {}

namespace State

/-- The state after more output. -/
def print (s : State) (t : Text) : State :=
  { s with output := s.output ++ t }

/-- The state after more text in the error stream. -/
def complain (s : State) (t : Text) : State :=
  { s with errors := s.errors ++ t }

/-- The state after a handler wrote a text. The file of a handler is open from its start on, so that
it can always be written to. -/
def deliver (s : State) (t : Text) : Log.Target → State
  | .errors => s.complain t
  | .file names =>
    match s.files.append [] (Path.absolute names) (Text.encode t) with
    | .ok files => { s with files := files }
    | .error _ => s

/-- The state after some records, in order, each of which all handlers are given. -/
def recordAll (s : State) (c : Context) (records : List Log.Record) : State :=
  s.log.activeHandlers.foldl
    (fun state h => state.deliver (s.log.written c.time records h) h.target) s

/-- The state after a record. -/
def record (s : State) (c : Context) (record : Log.Record) : State :=
  s.recordAll c [record]

end State

end MarkTex.Program
