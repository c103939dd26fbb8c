import MarkTex.Files.Tree
import MarkTex.Log.Record
import MarkTex.Options.Engine

/-!
# Compiling documents

An engine is run over a document in a directory of its own, several times so that references settle.
Each run may leave a log and a printable file there, which stay for the runs after it. The first run
that fails or takes too long is the last. A compilation succeeds if no run failed and a printable
file that is not empty is left. It comes to no outcome at all if the document cannot be written, or
if a name or a message would have to show an integer that is too long for it.
-/

namespace MarkTex.Engine

/-- The logger of messages about compilations. -/
def logger : String := "md2latex.compiler"

/-! ## Engines -/

/-- How a run of an engine ends. -/
inductive Ending where
  /-- The run took too long. -/
  | timeout
  /-- The run ended by itself, with a status and what it printed. -/
  | exit (status : Int) (printed : Text)
  deriving DecidableEq, Repr

/-- A run of an engine: what it leaves and how it ends. -/
structure Run where
  log : Option Bytes := none
  pdf : Option Bytes := none
  ending : Ending := .exit 0 []
  deriving DecidableEq, Repr

/-- An engine that is installed: where it is, and what its runs do. The last run is repeated. -/
structure Installed where
  path : String
  runs : List Run
  deriving Repr

/-- What the numbered run of an engine does. -/
def Installed.run (engine : Installed) (n : Nat) : Run :=
  engine.runs[min n (engine.runs.length - 1)]?.getD {}

/-! ## Commands -/

/-- The name that the files of a compilation share. -/
def Options.job (options : Options) : String :=
  options.jobName.plain

/-- The name of the document's file. -/
def Options.documentName (options : Options) : Path :=
  Path.ofString (options.job ++ ".tex")

/-- Whether the document can be written into a directory that is empty. -/
def Options.place (options : Options) : Except FileFault Unit :=
  (FileTree.write {} [] options.documentName []).map fun _ => ()

/-- The command of a run: the engine, where it leaves its files, and the document. -/
def command (options : Options) (engine : String) (directory document : Path) : List String :=
  [engine, "-interaction=nonstopmode", "-halt-on-error", "-jobname=" ++ options.job,
    "-output-directory=" ++ directory.toString, document.toString]

/-! ## Outcomes -/

/-- Why there is no printable file. -/
inductive Failure where
  | notInstalled (engine : Name)
  | timedOut (engine : Name) (limit : Seconds)
  | exited (engine : Name) (status : Int)
  | noPdf

/-- A number of seconds as messages show it. -/
def Seconds.shown (s : Seconds) : String :=
  s.toValue.plain

/-- Why there is no printable file, in words. -/
def Failure.message : Failure → String
  | notInstalled engine =>
    let name := engine.program
    s!"{name} not found on PATH"
  | timedOut engine limit =>
    let name := engine.program
    s!"{name} timed out after {limit.shown} seconds"
  | exited engine status =>
    let name := engine.program
    s!"{name} exited with status {status}"
  | noPdf => "no PDF was produced"

/-- What came of a compilation: the log, the status of the last run if it ended by itself, the
number of runs, and the printable file. -/
structure Outcome where
  log : Text
  status : Option Int
  runs : Nat
  pdf : Except Failure Bytes

namespace Outcome

/-- Whether there is a printable file. -/
def success (outcome : Outcome) : Bool :=
  outcome.pdf.isOk

/-- The printable file, if there is one. -/
def pdf? (outcome : Outcome) : Option Bytes :=
  outcome.pdf.toOption

/-- Why there is no printable file, if there is none. -/
def error? (outcome : Outcome) : Option Failure :=
  match outcome.pdf with
  | .ok _ => none
  | .error failure => some failure

end Outcome

/-- The number of lines of a log that are shown where none is marked as an error. -/
def tailLength : Nat := 20

/-- Whether a line of a log is marked as an error. -/
def isErrorLine (line : Text) : Bool :=
  line.head? == some '!'

/-- The lines of a log that are marked as errors, or its last lines if none is. -/
def summary (log : Text) : Text :=
  let lines := Text.lines log
  let marked := lines.filter isErrorLine
  List.intercalate ['\n'] (if marked.isEmpty then lines.drop (lines.length - tailLength) else marked)

/-- The message about a compilation that failed. -/
def failureMessage (failure : Failure) (log : Text) : String :=
  "LaTeX compilation failed (" ++ failure.message ++ "):\n" ++ String.ofList (summary log)

/-- The message about an engine that is needed and not installed. -/
def missingMessage (engine : Name) : String :=
  let name := engine.program
  s!"'{name}' was not found on PATH. Install a TeX distribution that provides it."

/-! ## Runs -/

/-- The files that runs have left. -/
structure Left where
  log : Option Bytes := none
  pdf : Option Bytes := none

/-- The files that are left after one more run. -/
def Left.after (left : Left) (run : Run) : Left :=
  ⟨run.log <|> left.log, run.pdf <|> left.pdf⟩

/-- The log that is left, empty if there is none. -/
def Left.logText (left : Left) : Text :=
  match left.log with
  | none => []
  | some bytes => Text.unifyLineEnds (Text.decodeLossy bytes)

/-- What some runs have come to: their number, the end of the last, and the files left. -/
structure Progress where
  runs : Nat
  ending : Ending
  left : Left

/-- Whether the runs go on after one that ends so. -/
def Ending.isFine : Ending → Bool
  | exit status _ => status == 0
  | timeout => false

/-- Runs an engine once and, while all is fine, up to `more` times again, where `done` runs have
left the given files. -/
def runFrom (run : Nat → Run) (done : Nat) (left : Left) : Nat → Progress
  | 0 => ⟨done + 1, (run done).ending, left.after (run done)⟩
  | more + 1 =>
    if (run done).ending.isFine then runFrom run (done + 1) (left.after (run done)) more
    else ⟨done + 1, (run done).ending, left.after (run done)⟩

/-- Runs an engine as often as the options ask for, while all is fine. -/
def runAll (options : Options) (run : Nat → Run) : Progress :=
  runFrom run 0 {} (options.passes.val - 1)

/-- What came of the runs of an engine. -/
def Progress.outcome (options : Options) (progress : Progress) : Outcome :=
  let log := progress.left.logText
  match progress.ending with
  | .timeout =>
    ⟨log, none, progress.runs, .error (.timedOut options.engine options.timeout)⟩
  | .exit status printed =>
    let pdf : Except Failure Bytes :=
      if status != 0 then .error (.exited options.engine status)
      else
        match progress.left.pdf with
        | some (b :: bytes) => .ok (b :: bytes)
        | _ => .error .noPdf
    ⟨if log.isEmpty then printed else log, some status, progress.runs, pdf⟩

/-! ## Faults -/

/-- Why a compilation comes to no outcome. -/
inductive Fault where
  /-- The document cannot be written. -/
  | unplaced (cause : FileFault)
  /-- A name or a message cannot show an integer, after some runs. -/
  | unshowable (runs : Nat)

/-- How often the engine was run before the fault. -/
def Fault.runs : Fault → Nat
  | unplaced _ => 0
  | unshowable runs => runs

/-- What comes before the first run: the document is named and written, and a message shows how many
runs there will be. -/
def Options.prepare (options : Options) : Except Fault Unit :=
  if !options.jobName.isShowable then .error (.unshowable 0)
  else
    match options.place with
    | .error cause => .error (.unplaced cause)
    | .ok () =>
      if (Value.int options.passes.val).isShowable then .ok () else .error (.unshowable 0)

/-- Whether messages can show how a run ended: they show the time that it was given, or its status.
-/
def Ending.isShowable (options : Options) : Ending → Bool
  | timeout => options.timeout.toValue.isShowable
  | exit status _ => (Value.int status).isShowable

/-! ## Messages -/

/-- A message about a compilation. -/
def notice (level : Int) (message : String) : Log.Record where
  logger := logger
  level := level
  message := message

/-- The message before each run. -/
def runNotices (options : Options) (runs : Nat) : List Log.Record :=
  let name := options.engine.program
  let total := options.passes.val
  (List.range runs).map fun n =>
    let pass := n + 1
    notice Log.debug s!"Running {name} pass {pass}/{total}"

/-- The message about what came of a compilation. -/
def outcomeNotice (outcome : Outcome) : Log.Record :=
  match outcome.pdf with
  | .ok pdf =>
    notice Log.info s!"Compiled PDF ({pdf.length} bytes) in {outcome.runs} pass(es)"
  | .error (.notInstalled engine) =>
    let name := engine.program
    notice Log.warning s!"{name} is not installed"
  | .error (.timedOut engine limit) =>
    let name := engine.program
    notice Log.warning s!"{name} timed out after {limit.shown}s"
  | .error failure => notice Log.warning ("Compilation failed: " ++ failure.message)

/-! ## Compilations -/

/-- Compiles with an engine. The document is written first, which fails if its name cannot be that
of a file. -/
def compile (options : Options) (engine : Option Installed) : Except Fault Outcome :=
  match engine with
  | none => .ok ⟨[], none, 0, .error (.notInstalled options.engine)⟩
  | some engine =>
    match options.prepare with
    | .error fault => .error fault
    | .ok () =>
      let progress := runAll options engine.run
      if progress.ending.isShowable options then .ok (progress.outcome options)
      else .error (.unshowable progress.runs)

/-- How often the engine was run in a compilation that came to this. -/
def runsOf : Except Fault Outcome → Nat
  | .ok outcome => outcome.runs
  | .error fault => fault.runs

/-- Why no printable file is handed on. -/
inductive Refusal where
  | missing (engine : Name)
  /-- The compilation failed, and left this log. -/
  | failed (cause : Failure) (log : Text)
  /-- The compilation came to no outcome. -/
  | broken (fault : Fault)

/-- The printable file of a compilation, which needs an engine. -/
def produce (options : Options) (engine : Option Installed) : Except Refusal Bytes :=
  match engine with
  | none => .error (.missing options.engine)
  | some engine =>
    match compile options (some engine) with
    | .error fault => .error (.broken fault)
    | .ok outcome => outcome.pdf.mapError fun cause => .failed cause outcome.log

/-- The messages of a compilation with the given outcome. -/
def notices (options : Options) (outcome : Outcome) : List Log.Record :=
  runNotices options outcome.runs ++ [outcomeNotice outcome]

/-- The messages where a printable file is needed: those of the compilation, if there is one. Where
it comes to no outcome there are none but those before the runs. -/
def produceNotices (options : Options) (engine : Option Installed) : List Log.Record :=
  match engine with
  | none => []
  | some engine =>
    match compile options (some engine) with
    | .error fault => runNotices options fault.runs
    | .ok outcome => notices options outcome

/-- The commands of a compilation that came to this, in the directory where the document is. -/
def commands (options : Options) (engine : Option Installed) (directory : Path)
    (made : Except Fault Outcome) : List (List String) :=
  match engine with
  | none => []
  | some engine =>
    List.replicate (runsOf made)
      (command options engine.path directory (directory.join options.documentName))

end MarkTex.Engine
