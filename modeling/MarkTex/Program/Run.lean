import MarkTex.CommandLine.Arguments
import MarkTex.CommandLine.Usage
import MarkTex.Program.Convert
import MarkTex.Program.Records

/-!
# Runs of the program

A run reads its command line twice. The first time tells which configuration gives the settings
their defaults; then come the defaults from the environment, and the second time gives the settings.
After the handling of records is set up, the job that the settings ask for is carried out.
-/

namespace MarkTex.Program

open CommandLine (Grammar Stop ArgumentFault)

/-- How a run ends. -/
inductive Ending where
  | exit (status : Nat)
  /-- The run ends without an exit status. -/
  | crash (cause : Failure)

/-- The line that reports what is wrong. -/
def errorLine (message : String) : Text :=
  s!"Error: {message}\n".toList

/-- The line that reports what is wrong with a command line. -/
def argumentLine (fault : ArgumentFault) : Text :=
  (CommandLine.programName ++ s!": error: {fault.message}\n").toList

/-- A run that ends where reading its command line ends. -/
def stop (s : State) : Stop → State × Ending
  | .help => (s.print CommandLine.helpText.toList, .exit 0)
  | .version => (s.print CommandLine.versionText.toList, .exit 0)
  | .fault cause => (s.complain (argumentLine cause), .exit Failure.refusedStatus)

/-- A run that ends because of a failure. -/
def fail (s : State) (failure : Failure) : State × Ending :=
  match failure.status? with
  | some status => (s.complain (errorLine failure.message), .exit status)
  | none => (s, .crash failure)

/-! ## Configurations -/

/-- The configuration file that the first reading of a command line asks for: none, the named one,
the one that the environment names, or the one that is found. -/
def configPath (c : Context) (files : FileTree) (selection : Fields) : Config.Search :=
  if (selection.get "no_config").truthy then {}
  else
    let named := selection.get "config"
    let named := if named.truthy then named else .str ((c.environment.setting? "config").getD "")
    match named with
    | .str "" => Config.discover files c.home c.directory
    | v => { found := .ok (some (Path.ofString v.plain)) }

/-- The grammar with defaults from the configuration file at a path, if there is one, and messages.
-/
def configure (c : Context) (files : FileTree) (g : Grammar) :
    Option Path → List Log.Record × Except Failure Grammar
  | none => ([], .ok g)
  | some path =>
    match Config.load files c.directory path with
    | .error cause => ([], .error (.load cause))
    | .ok entries =>
      let applied := g.withConfig path.toString entries
      (applied.notices, applied.result.mapError .config)

/-! ## Runs -/

/-- The level of the records that settings ask for. -/
def recordLevel (settings : Fields) : Except Failure Value :=
  if (settings.get "trace").truthy then .ok (.int Log.debug)
  else
    match settings.get "log_level" with
    | .str name =>
      if (settings.get "verbose").truthy && name = "WARNING" then .ok (.int Log.debug)
      else .ok (.str name)
    | v => .error (.notLevel v.qualifiedTypeName)

/-- The message about the configuration file that gave defaults. -/
def configNotice (path : Path) : Log.Record where
  logger := logger
  level := Log.debug
  message := s!"Loaded configuration from {path}"

/-- The state after the handling of records was set up as settings ask for. -/
def configureRecords (c : Context) (settings : Fields) (s : State) : State × Except Failure Unit :=
  match recordLevel settings with
  | .error failure => (s, .error failure)
  | .ok level =>
    s.configure c level (settings.get "log_file") (settings.get "trace").truthy

/-- A run with the given settings and input. -/
def runWith (c : Context) (emit : Table.Options → Conversion.Emitter) (config : Option Path)
    (settings : Fields) (input : Text) (s : State) : State × Ending :=
  match configureRecords c settings s with
  | (s, .error failure) => (s, .crash failure)
  | (s, .ok ()) =>
    match convert c emit settings input (s.recordAll c (config.toList.map configNotice)) with
    | (s, .error failure) => fail s failure
    | (s, .ok ()) => (s, .exit 0)

/-- The settings and the input of a command line after defaults were taken from a configuration and
from the environment. -/
def runConfigured (c : Context) (emit : Table.Options → Conversion.Emitter) (config : Option Path)
    (arguments : List Text) (s : State) : State × Ending :=
  match configure c s.files CommandLine.grammar config with
  | (notices, .error failure) => fail (s.recordAll c notices) failure
  | (notices, .ok g) =>
    let (g, warnings) := g.withVariables c.environment
    let s := s.recordAll c (notices ++ warnings)
    match g.read arguments with
    | .error cause => stop s cause
    | .ok (settings, input) => runWith c emit config settings input s

/-- A run with the given command line. -/
def run (c : Context) (emit : Table.Options → Conversion.Emitter) (arguments : List Text)
    (s : State) : State × Ending :=
  match CommandLine.selectionGrammar.readSettings arguments with
  | .error cause => stop s cause
  | .ok (selection, _) =>
    let search := configPath c s.files selection
    let s := s.recordAll c search.notices
    match search.found with
    | .error cause => (s, .crash (.load cause))
    | .ok config => runConfigured c emit config arguments s

end MarkTex.Program
