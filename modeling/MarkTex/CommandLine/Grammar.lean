import MarkTex.Options.Basic

/-!
# Command line grammars

A command line consists of options, some with values, and of at most one input. An option sets a
named setting; settings that no option sets have their default values.
-/

namespace MarkTex.CommandLine

/-- What the value of an option is. -/
inductive ValueType where
  | text
  | int
  | float
  deriving DecidableEq, Repr

/-- The name of a type of values. -/
def ValueType.name : ValueType → String
  | text => "str"
  | int => "int"
  | float => "float"

/-- The value that a text is as one of a type. -/
def ValueType.read (type : ValueType) (t : Text) : Option Value :=
  match type with
  | text => some (.str (String.ofList t))
  | int =>
    match Number.readInt t with
    | .ok i => some (.int i)
    | .error _ => none
  | float => (Number.readFloat? t).map Value.float

/-- What an option does. -/
inductive Action where
  /-- Takes a value of a type, one of the choices if there are any. -/
  | store (type : ValueType) (choices : List String)
  /-- Takes no value, and sets this one. -/
  | flag (value : Bool)
  /-- Shows the options. -/
  | help
  /-- Shows the version. -/
  | version
  deriving DecidableEq, Repr

/-- A setting, the options that set it, and its value without them. -/
structure Parameter where
  dest : String
  names : List String
  action : Action
  default : Value := .null

namespace Parameter

/-- The names of the options as messages show them. -/
def label (p : Parameter) : String :=
  "/".intercalate p.names

/-- Whether the options of a parameter take a value. -/
def takesValue (p : Parameter) : Bool :=
  match p.action with
  | .store .. => true
  | _ => false

/-- Whether a parameter is a setting, and not a request for help or the version. -/
def isSetting (p : Parameter) : Bool :=
  match p.action with
  | .store .. => true
  | .flag _ => true
  | _ => false

end Parameter

/-- The parameters of a command line, and whether it has an input. -/
structure Grammar where
  parameters : List Parameter
  takesInput : Bool

namespace Grammar

/-- The parameter that an option with exactly the given name sets. -/
def find? (g : Grammar) (name : Text) : Option Parameter :=
  g.parameters.find? fun p => p.names.any fun n => n.toList = name

/-- The grammar with another default value for a setting. -/
def withDefault (g : Grammar) (dest : String) (value : Value) : Grammar :=
  { g with
    parameters := g.parameters.map fun p =>
      if p.dest = dest then { p with default := value } else p }

end Grammar

end MarkTex.CommandLine
