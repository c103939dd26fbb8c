import MarkTex.CommandLine.Grammar
import MarkTex.Config.Discover
import MarkTex.Config.Flatten

/-!
# Defaults from configurations and the environment

A configuration and the variables of the environment give settings new default values. Their values
are converted to what the options of the setting take. A configuration with a value that cannot be
converted is refused; such a variable is passed over with a warning.
-/

namespace MarkTex.CommandLine

/-- Why a value is refused. -/
inductive SettingFault where
  | badValue (dest source : String) (value : Value)
  | badChoice (dest source : String) (value : Value) (choices : List String)
  /-- An infinite number is no integer. -/
  | infinite
  /-- An integer is larger than every double. -/
  | tooLarge
  /-- The value cannot be shown. -/
  | unshowable

namespace SettingFault

/-- What is wrong with a value. -/
def message : SettingFault → String
  | badValue dest source value => s!"Invalid value for {dest} in {source}: {value.shown}"
  | badChoice dest source value choices =>
    let shown := (Value.list (choices.map Value.str)).shown
    s!"Invalid choice for {dest} in {source}: {value.shown}. Choices: {shown}"
  | infinite => "cannot convert float infinity to integer"
  | tooLarge => "int too large to convert to float"
  | unshowable => Value.unshowableMessage

/-- Whether the fault is reported as one of the configuration. -/
def isReported : SettingFault → Bool
  | badValue .. => true
  | badChoice .. => true
  | _ => false

end SettingFault

/-- The texts that stand for yes. -/
def yesTexts : List String := ["true", "1", "yes", "on"]

/-- Whether a value turns a flag on. -/
def isOn (value : Value) : Bool :=
  match value with
  | .bool b => b
  | v => yesTexts.any fun yes => yes.toList = Text.lower (Text.strip v.plain.toList)

/-- Settings that have no defaults from outside. -/
def fixedSettings : List String := ["help", "version", "input", "config", "no_config"]

/-- Whether a parameter has defaults from outside. -/
def Parameter.isConfigurable (p : Parameter) : Bool :=
  !fixedSettings.contains p.dest

/-- The characters of bytes that can spell a number: all are ASCII, and none is a separator. -/
def spelling? (content : Bytes) : Option Text :=
  let spells (b : UInt8) : Bool := b < 0x80 && !(0x1C ≤ b && b ≤ 0x1F)
  if content.all spells then some (content.map fun b => Char.ofNat b.toNat) else none

/-- The value as one of a type. Yes and no stay what they are. -/
def ValueType.convert (type : ValueType) (refused : SettingFault) (value : Value) :
    Except SettingFault Value :=
  match type, value with
  | _, .bool b => .ok (.bool b)
  | .text, v => .ok v
  | _, .str s =>
    match type.read s.toList with
    | some v => .ok v
    | none => .error refused
  | _, .bytes content =>
    match (spelling? content).bind type.read with
    | some v => .ok v
    | none => .error refused
  | .int, .int i => .ok (.int i)
  | .int, .float x =>
    if x.isNaN then .error refused
    else if x.isInf then .error .infinite
    else .ok (.int (Number.truncate x))
  | .float, .int i =>
    match Number.floatOfInt? i with
    | some x => .ok (.float x)
    | none => .error .tooLarge
  | .float, .float x => .ok (.float x)
  | _, _ => .error refused

/-- Whether a value is one of the choices. -/
def isChoice (choices : List String) (value : Value) : Bool :=
  match value with
  | .str s => choices.contains s
  | _ => false

/-- The fault of a value that is shown in the message about it. -/
def SettingFault.showing (fault : SettingFault) (value : Value) : SettingFault :=
  if value.isShowable then fault else .unshowable

/-- The value as one that the options of a parameter take. -/
def Parameter.convert (p : Parameter) (source : String) (value : Value) :
    Except SettingFault Value :=
  match p.action with
  | .store type choices =>
    match type.convert (SettingFault.showing (.badValue p.dest source value) value) value with
    | .error fault => .error fault
    | .ok v =>
      if choices.isEmpty || isChoice choices v then .ok v
      else .error (SettingFault.showing (.badChoice p.dest source v choices) v)
  | _ => if value.isShowable then .ok (.bool (isOn value)) else .error .unshowable

/-- The parameter of a setting that has defaults from outside. -/
def Grammar.configurable? (g : Grammar) (dest : String) : Option Parameter :=
  g.parameters.find? fun p => p.isConfigurable && p.dest = dest

/-! ## Configurations -/

/-- Why a configuration is refused. -/
inductive ConfigFault where
  | key (cause : Config.KeyFault)
  | setting (cause : SettingFault)

/-- What is wrong with a configuration. -/
def ConfigFault.message : ConfigFault → String
  | key cause => cause.message
  | setting cause => cause.message

/-- Whether the fault is reported as one of the configuration. -/
def ConfigFault.isReported : ConfigFault → Bool
  | key _ => false
  | setting cause => cause.isReported

/-- A configuration that was applied: messages, and the grammar with the new defaults. -/
structure Applied where
  notices : List Log.Record := []
  result : Except ConfigFault Grammar

/-- A warning about a configuration. -/
def warning (message : String) : Log.Record where
  logger := Config.logger
  level := Log.warning
  message := message

/-- The warning about a name that is no setting. -/
def unknownNotice (name source : String) : Log.Record :=
  let shown := quote name
  warning s!"Ignoring unknown option {shown} in {source}"

/-- The grammar with defaults from the entries of a flat configuration. -/
def Grammar.withEntries (g : Grammar) (source : String) : List (String × Value) → Applied
  | [] => { result := .ok g }
  | (name, value) :: rest =>
    match g.configurable? name with
    | none =>
      let applied := g.withEntries source rest
      { applied with notices := unknownNotice name source :: applied.notices }
    | some p =>
      match p.convert source value with
      | .error fault => { result := .error (.setting fault) }
      | .ok v => (g.withDefault name v).withEntries source rest

/-- The grammar with defaults from a configuration. -/
def Grammar.withConfig (g : Grammar) (source : String) (entries : Config.Entries) : Applied :=
  match Config.flatten entries with
  | .error fault => { result := .error (.key fault) }
  | .ok flat => g.withEntries source flat

/-! ## The environment -/

/-- The start of the names of all variables. -/
def variableStart : String := "MD2LATEX_"

/-- The name of the variable for a setting. -/
def variableName (key : String) : String :=
  variableStart ++ String.ofList (Text.replaceChar '-' ['_'] (Text.upper key.toList))

/-- The variables of the environment. -/
abbrev Variables := List (String × String)

/-- The value of the variable for a setting. -/
def Variables.setting? (environment : Variables) (key : String) : Option String :=
  environment.lookup (variableName key)

/-- The grammar with the default for a parameter from its variable, and the warnings. -/
def Grammar.withVariable (environment : Variables) (state : Grammar × List Log.Record)
    (p : Parameter) : Grammar × List Log.Record :=
  let (g, notices) := state
  match if p.isConfigurable then environment.setting? p.dest else none with
  | none => state
  | some text =>
    match p.convert (variableName p.dest) (.str text) with
    | .ok value => (g.withDefault p.dest value, notices)
    | .error fault => (g, notices ++ [warning fault.message])

/-- The grammar with defaults from the environment, and the warnings. -/
def Grammar.withVariables (g : Grammar) (environment : Variables) : Grammar × List Log.Record :=
  g.parameters.foldl (Grammar.withVariable environment) (g, [])

end MarkTex.CommandLine
