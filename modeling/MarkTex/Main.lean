import MarkTex.Program.Reach
import Std.Time.Format

/-!
# The program

The outer layer of the program: it gathers what a run is given, carries the run out and then writes
what the run changed. No engine can be started from here, so that none counts as installed.
-/

namespace MarkTex.Outside

open Program (Context State Ending)

/-- The path from the root through the given names, as the system takes it. -/
def systemPath (names : List String) : String :=
  (Path.absolute names).toString

/-- The tree with what the names lead to, if it is there and can be read. -/
def fetch (tree : FileTree) (names : List String) : IO FileTree := do
  if (tree.find names).isSome then return tree
  match ← (IO.FS.readBinFile (systemPath names)).toBaseIO with
  | .ok content => return tree.put names (.file content.toList)
  | .error (.inappropriateType ..) => return tree.put names .directory
  | .error _ => return tree

/-- The tree with all that the given names lead to. -/
def fetchAll (tree : FileTree) (all : List (List String)) : IO FileTree :=
  all.foldlM fetch tree

/-- The names of a path of the system. -/
def namesOf (path : String) : List String :=
  (Path.ofString path).names

/-- The variables that give settings their defaults. -/
def environment : IO CommandLine.Variables := do
  let keys := "config" :: CommandLine.grammar.parameters.map (·.dest)
  keys.filterMapM fun key => do
    let name := CommandLine.variableName key
    return (← IO.getEnv name).map (name, ·)

/-- The input, which is only read if a hyphen asks for it. -/
def input (arguments : List Text) : IO Bytes := do
  if arguments.contains ['-'] then return (← IO.FS.readBinFile "/dev/stdin").toList else return []

/-- What a run with the given command line is given. -/
def context (arguments : List Text) : IO Context := do
  let home := (← IO.getEnv "HOME").getD "/"
  let now ← Std.Time.PlainDateTime.now
  return {
    directory := namesOf (toString (← IO.currentDir))
    home := namesOf home
    environment := ← environment
    input := ← input arguments
    time := now.format "uuuu-MM-dd HH:mm:ss" }

/-- Writes to a stream. -/
def send (stream : IO.FS.Stream) (t : Text) : IO Unit := do
  stream.write ⟨(Text.encode t).toArray⟩
  stream.flush

/-- Writes what a run changed. -/
def commit (before : FileTree) (s : State) : IO Unit := do
  for (names, content) in Program.changed before s.files do
    IO.FS.writeBinFile (systemPath names) ⟨content.toArray⟩
  send (← IO.getStdout) s.output
  send (← IO.getStderr) s.errors

/-- The exit status of a run; one that ends without any has failed. -/
def statusOf (ending : Ending) : IO UInt32 := do
  match ending with
  | .exit status => return UInt32.ofNat status
  | .crash cause =>
    send (← IO.getStderr) (cause.message.toList ++ ['\n'])
    return 1

end MarkTex.Outside

open MarkTex MarkTex.Outside in
/-- The program. -/
def main (arguments : List String) : IO UInt32 := do
  let arguments := arguments.map String.toList
  let c ← context arguments
  let files ← fetchAll {} (Program.searched c ++ Program.named c arguments)
  let files ← fetchAll files (Program.configured c files arguments)
  let (s, ending) := Program.run c Conversion.emitter arguments { files := files }
  commit files s
  statusOf ending
