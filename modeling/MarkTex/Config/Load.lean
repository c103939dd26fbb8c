import MarkTex.Config.Json
import MarkTex.Config.Toml.Read
import MarkTex.Config.Yaml.Read
import MarkTex.Files.Tree
import MarkTex.Text.Case

/-!
# Configuration files

A configuration file is a mapping in one of three formats, told apart by the ending of its name. A
project file holds its configuration in a table among others. Most faults are reported as such;
faults in single numbers, days and bytes, and of a project file whose tables are none, are not
caught.
-/

namespace MarkTex.Config

/-- A format of configuration files. -/
inductive Format where
  | toml
  | yaml
  | json
  deriving DecidableEq, Repr

/-- The name of a format. -/
def Format.name : Format → String
  | toml => "TOML"
  | yaml => "YAML"
  | json => "JSON"

/-- What the whole of a file in a format has to be. -/
def Format.whole : Format → String
  | toml => "a table"
  | yaml => "a mapping"
  | json => "an object"

/-- The name of project files, in small letters. -/
def projectFile : String := "pyproject.toml"

/-- The name of the table for this program among those of its kind. -/
def sectionName : String := "md2latex"

/-- Why a file gives no configuration. -/
inductive LoadFault where
  | missing (path : Path)
  | notFile (path : Path)
  /-- The path cannot be followed. -/
  | unreachable (path : Path) (cause : FileFault)
  /-- The ending of the name is that of no format. -/
  | unknownFormat (suffix : String)
  /-- The text does not follow the grammar of its format. -/
  | malformed (format : Format) (path : Path)
  /-- The project file does not follow the grammar. -/
  | malformedProject (path : Path)
  /-- The whole is no mapping. -/
  | notMapping (format : Format) (typeName : String)
  /-- The table of a project file is none. -/
  | notTable (path : Path) (typeName : String)
  /-- The text follows the grammar and has no value. -/
  | value (cause : ValueFault)
  /-- The tables around that of a project file are none. -/
  | noTables (typeName : String)
  deriving DecidableEq, Repr

namespace LoadFault

/-- What is wrong with a file. -/
def message : LoadFault → String
  | missing path => s!"Configuration file does not exist: {path}"
  | notFile path => s!"Configuration path is not a file: {path}"
  | unreachable path cause => cause.message path.toString
  | unknownFormat suffix => s!"Unsupported config file format: {suffix}. Use .toml, .yaml or .json"
  | malformed format path =>
    let name := format.name
    s!"Invalid {name} in config file {path}"
  | malformedProject path => s!"Invalid TOML in pyproject.toml {path}"
  | notMapping format typeName =>
    let name := format.name
    let whole := format.whole
    s!"{name} config file must contain {whole}, got {typeName}"
  | notTable path typeName =>
    "[tool." ++ sectionName ++ s!"] section in {path} must be a table, got {typeName}"
  | value cause => cause.message
  | noTables typeName => s!"'{typeName}' object has no attribute 'get'"

/-- Whether the fault is reported as one of the configuration. -/
def isReported : LoadFault → Bool
  | unreachable .. => false
  | value _ => false
  | noTables _ => false
  | _ => true

end LoadFault

/-- A fault of a text as one of its file, where `malformed` is the one for texts that do not follow
the grammar. -/
def Fault.ofFile (malformed : LoadFault) : Fault → LoadFault
  | .malformed => malformed
  | .value cause => .value cause

/-- The text of a file. -/
def decode (content : Bytes) : Except Fault Text :=
  (Text.decode content).mapError fun cause => .value (.undecodable cause)

/-- The value of a file in a format. -/
def Format.read (format : Format) (malformed : LoadFault) (content : Bytes) :
    Except LoadFault Value :=
  let value :=
    match format with
    | .toml => (decode content).bind Toml.read
    | .yaml => Yaml.readBytes content
    | .json => (decode content).bind fun t => Json.read (Text.unifyLineEnds t)
  value.mapError (Fault.ofFile malformed)

/-- The entries of a configuration. -/
abbrev Entries := List (Value × Value)

/-- The entries of the value of a file. An empty YAML file has none. -/
def Format.entries (format : Format) (value : Value) : Except LoadFault Entries :=
  match value with
  | .map entries => .ok entries
  | .null => if format = .yaml then .ok [] else .error (.notMapping format value.typeName)
  | v => .error (.notMapping format v.typeName)

/-- The entries of the table for this program in the value of a project file. -/
def projectEntries (path : Path) (value : Value) : Except LoadFault Entries :=
  match value with
  | .map entries =>
    match (Value.entry? "tool" entries).getD (.map []) with
    | .map tools =>
      match (Value.entry? sectionName tools).getD (.map []) with
      | .map entries => .ok entries
      | v => .error (.notTable path v.typeName)
    | v => .error (.noTables v.qualifiedTypeName)
  | v => .error (.noTables v.qualifiedTypeName)

/-- The entries of the project file with the given contents. -/
def readProject (path : Path) (content : Bytes) : Except LoadFault Entries := do
  let value ← Format.toml.read (.malformedProject path) content
  projectEntries path value

/-- The format of files with an ending. -/
def formatOf (suffix : String) : Option Format :=
  if suffix = ".toml" then some .toml
  else if suffix = ".yaml" || suffix = ".yml" then some .yaml
  else if suffix = ".json" then some .json
  else none

/-- The entries of the configuration file with the given contents. -/
def readFile (path : Path) (content : Bytes) : Except LoadFault Entries :=
  let lower (s : String) : String := String.ofList (Text.lower s.toList)
  if lower path.name = projectFile then readProject path content
  else
    match formatOf (lower path.suffix) with
    | none => .error (.unknownFormat (lower path.suffix))
    | some format => do
      let value ← format.read (.malformed format path) content
      format.entries value

/-- The entries of the configuration file at a path. -/
def load (tree : FileTree) (here : List String) (path : Path) : Except LoadFault Entries :=
  match tree.locate here path with
  | .ok (_, some (.file content)) => readFile path content
  | .ok (_, some .directory) => .error (.notFile path)
  | .error .nameTooLong => .error (.unreachable path .nameTooLong)
  | _ => .error (.missing path)

end MarkTex.Config
