import MarkTex.Value

/-!
# Flat configurations

Mappings inside a configuration only group its entries. The flat configuration has the entries of
all groups under the names of options, in which hyphens are underscores. A name that comes again
gets a new value and keeps its place.

Groups may stand inside of one another to any depth. The formats that configurations are read from
keep to a depth (`nestingRoom`); the depth of the stack that flattening takes is not modelled here.
A mapping that groups itself has no flat form at all.
-/

namespace MarkTex.Config

/-- The name of an option in a configuration. -/
def optionName (key : String) : String :=
  String.ofList (Text.replaceChar '-' ['_'] key.toList)

/-- The entries with a value for a name. -/
def set (name : String) (value : Value) : List (String × Value) → List (String × Value)
  | [] => [(name, value)]
  | (n, v) :: rest => if n = name then (n, value) :: rest else (n, v) :: set name value rest

/-- The entries with values for the names of others, in their order. -/
def setAll (entries others : List (String × Value)) : List (String × Value) :=
  others.foldl (fun entries (name, value) => set name value entries) entries

/-- Why a configuration has no flat one. -/
inductive KeyFault where
  /-- The key of an entry is no text. -/
  | notText (key : Value)
  /-- A mapping groups itself. -/
  | endless

/-- Whether a value is a day or a point in time. -/
def isDay : Value → Bool
  | .moment (.time _) => false
  | .moment _ => true
  | _ => false

/-- What is wrong with a key. -/
def KeyFault.message : KeyFault → String
  | notText (.bytes _) => "a bytes-like object is required, not 'str'"
  | notText key =>
    if isDay key then "'str' object cannot be interpreted as an integer"
    else
      let typeName := key.typeName
      s!"'{typeName}' object has no attribute 'replace'"
  | endless => "maximum recursion depth exceeded while calling a Python object"

mutual

/-- The entries of a flat configuration after those of a nested one. -/
def flattenOnto (flat : List (String × Value)) :
    List (Value × Value) → Except KeyFault (List (String × Value))
  | [] => .ok flat
  | (key, value) :: rest =>
    match flattenEntry flat key value with
    | .ok flat => flattenOnto flat rest
    | .error fault => .error fault

/-- The entries of a flat configuration after one of a nested one. -/
def flattenEntry (flat : List (String × Value)) (key : Value) :
    Value → Except KeyFault (List (String × Value))
  | .map entries => (flattenOnto [] entries).map (setAll flat)
  | .cycle true => .error .endless
  | value =>
    match key with
    | .str name => .ok (set (optionName name) value flat)
    | key => .error (.notText key)

end

/-- The flat configuration of a nested one. -/
def flatten (entries : List (Value × Value)) : Except KeyFault (List (String × Value)) :=
  flattenOnto [] entries

end MarkTex.Config
