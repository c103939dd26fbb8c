import MarkTex.Log.Record
import MarkTex.Text.Case
import MarkTex.Value

/-!
# Where log records go

Records of at least the level of their logger go to handlers, each of which drops those below its
own level. Before handlers are set up, warnings and what is worse go to the error stream as bare
messages. The tokenizer's logger has a level of its own, unless a run is traced.
-/

namespace MarkTex.Log

/-- The levels that have names; some have two. -/
def levels : List (String × Int) :=
  [("CRITICAL", critical), ("FATAL", critical), ("ERROR", error), ("WARNING", warning),
    ("WARN", warning), ("INFO", info), ("DEBUG", debug), ("NOTSET", 0)]

/-- The level that a value names, in letters of either case; one that names none is that of messages
about what was done. -/
def readLevel (value : Value) : Int :=
  match value with
  | .int i => i
  | .bool b => if b then 1 else 0
  | v => (levels.lookup (String.ofList (Text.upper v.plain.toList))).getD info

/-- A level as records show it: its first name if it has one. -/
def levelName (level : Int) : String :=
  match levels.find? fun (_, n) => n = level with
  | some (name, _) => name
  | none => s!"Level {level}"

/-- Where a handler writes to. -/
inductive Target where
  | errors
  /-- The file that the names lead to. -/
  | file (names : List String)
  deriving DecidableEq, Repr

/-- A handler, and the least level of what it writes. -/
structure Handler where
  target : Target
  level : Int
  deriving DecidableEq, Repr

/-- How records are handled. -/
structure Setup where
  /-- The level of all loggers but the tokenizer's. -/
  level : Int := warning
  /-- The level of the tokenizer's logger, zero if it has none of its own. -/
  tokenizer : Int := 0
  handlers : List Handler := []
  /-- Whether records show the time and their logger. -/
  tracing : Bool := false
  /-- Whether the level was given as a truth value, which stands for one or zero. -/
  isTruth : Bool := false
  deriving DecidableEq, Repr

/-- The logger that all others are below. -/
def rootLogger : String := "root"

/-- The logger of the tokenizer. -/
def tokenizerLogger : String := "markdown_it"

/-- Whether a logger is the tokenizer's or below it. -/
def isTokenizer (logger : String) : Bool :=
  logger = tokenizerLogger || (tokenizerLogger ++ ".").toList.isPrefixOf logger.toList

namespace Setup

/-- The least level of the records of a logger that are handled. -/
def levelOf (setup : Setup) (logger : String) : Int :=
  if isTokenizer logger && setup.tokenizer != 0 then setup.tokenizer else setup.level

/-- Whether a record is handled. Only records of a level above zero ever are. -/
def passes (setup : Setup) (record : Record) : Bool :=
  0 < record.level && setup.levelOf record.logger ≤ record.level

/-- A record as handlers write it. A logger without a name is the root of all. -/
def line (setup : Setup) (time : String) (record : Record) : String :=
  let level := levelName record.level
  let logger := if record.logger.isEmpty then rootLogger else record.logger
  if setup.tracing then s!"[{time}] [{level}] [{logger}] {record.message}"
  else s!"{level}: {record.message}"

/-- The handlers of records. As long as none are set up, there is one for warnings. -/
def activeHandlers (setup : Setup) : List Handler :=
  if setup.handlers.isEmpty then [⟨.errors, warning⟩] else setup.handlers

/-- What a handler writes for some records: a line for each that it does not drop. Before handlers
are set up, the line is the bare message. -/
def written (setup : Setup) (time : String) (records : List Record) (h : Handler) : Text :=
  (records.filter fun r => setup.passes r && h.level ≤ r.level).flatMap fun r =>
    let line := if setup.handlers.isEmpty then r.message else setup.line time r
    line.toList ++ ['\n']

/-- The handling of records from a level on, in the error stream. -/
def ofLevel (level : Int) (tracing : Bool) : Setup where
  level := level
  tokenizer := if tracing then 0 else max level warning
  handlers := [⟨.errors, level⟩]
  tracing := tracing

/-- The handling of records from the level on that a value names. -/
def ofValue (level : Value) (tracing : Bool) : Setup :=
  let isTruth := match level with
    | .bool _ => true
    | _ => false
  { ofLevel (readLevel level) tracing with isTruth }

/-- A level of the handling as it was given. -/
def given (setup : Setup) (level : Int) : Value :=
  if setup.isTruth then .bool (level != 0) else .int level

/-- The handling with records written to a file as well. -/
def withFile (setup : Setup) (names : List String) : Setup :=
  { setup with handlers := setup.handlers ++ [⟨.file names, setup.level⟩] }

end Setup

end MarkTex.Log
