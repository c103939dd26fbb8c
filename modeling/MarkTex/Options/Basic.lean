import MarkTex.Value

/-!
# Options

A set of options has named fields with values. Options are made from the defaults or from other
options by replacing some fields; all fields are then checked in a fixed order, and the first one
that fails is reported. Options that exist have passed the checks.
-/

namespace MarkTex

/-- Names with values, in order. -/
abbrev Fields := List (String × Value)

namespace Fields

/-- The value of the named field; a field that is missing is null. -/
def get (fields : Fields) (name : String) : Value :=
  (fields.lookup name).getD .null

/-- The fields with new values for those that `changes` names. -/
def overlay (fields changes : Fields) : Fields :=
  fields.map fun (name, value) => (name, (changes.lookup name).getD value)

/-- The first name in `changes` that is not a field. -/
def unknown? (fields changes : Fields) : Option String :=
  (changes.find? fun (name, _) => !(fields.any (·.1 = name))).map (·.1)

end Fields

/-- Why options are refused. -/
inductive OptionFault where
  /-- There is no such field in options of this class. -/
  | unknownField (className field : String)
  /-- The value is none of the allowed ones. -/
  | notAllowed (field : String) (allowed : List String) (value : Value)
  /-- The value is no integer above zero. -/
  | notPositiveInteger (field : String) (value : Value)
  /-- The value is no number above zero. -/
  | notPositiveNumber (field : String) (value : Value)
  /-- The value is no text, or one of white space only. -/
  | blank (field : String) (value : Value)
  /-- The value cannot name a file without its directory and ending. -/
  | notStem (value : Value)
  /-- The value is of a type in which no text can be looked for. -/
  | noParts (typeName : String)
  /-- The value is refused, and messages cannot show it. -/
  | unshowable
  /-- Options of another class were given. -/
  | wrongClass (component expected given : String)

namespace OptionFault

/-- What is wrong with the options. -/
def message : OptionFault → String
  | unknownField className field =>
    s!"{className}.__init__() got an unexpected keyword argument '{field}'"
  | notAllowed field allowed value =>
    let choices := ", ".intercalate allowed
    s!"{field} must be one of {choices}, got {value.shown}"
  | notPositiveInteger field value => s!"{field} must be a positive integer, got {value.shown}"
  | notPositiveNumber field value => s!"{field} must be a positive number, got {value.shown}"
  | blank field _ => s!"{field} must be a non-empty string"
  | notStem value => s!"job_name must be a plain file stem, got {value.shown}"
  | noParts typeName =>
    if typeName = "bytes" then "a bytes-like object is required, not 'str'"
    else s!"argument of type '{typeName}' is not iterable"
  | unshowable => Value.unshowableMessage
  | wrongClass component expected given =>
    s!"{component} expected options of type '{expected}' but received '{given}'."

/-- The field that is at fault, where the options are of the right class and hold such a field. -/
def field? : OptionFault → Option String
  | unknownField .. => none
  | notAllowed field .. => some field
  | notPositiveInteger field _ => some field
  | notPositiveNumber field _ => some field
  | blank field _ => some field
  | notStem _ => some "job_name"
  | noParts _ => none
  | unshowable => none
  | wrongClass .. => some "options"

/-- Whether the fault is reported as one of the options. -/
def isReported : OptionFault → Bool
  | unknownField .. => false
  | noParts _ => false
  | unshowable => false
  | _ => true

end OptionFault

/-! ## Checks of one field -/

/-- The fault of a value that is shown in the message about it. -/
def OptionFault.showing (fault : OptionFault) (value : Value) : OptionFault :=
  if value.isShowable then fault else .unshowable

/-- The choice that a value names. -/
def readChoice {α : Type} (field : String) (choices : List α) (name : α → String) (value : Value) :
    Except OptionFault α :=
  let chosen :=
    match value with
    | .str s => choices.find? fun choice => name choice = s
    | _ => none
  match chosen with
  | some choice => .ok choice
  | none => .error (OptionFault.showing (.notAllowed field (choices.map name) value) value)

/-- A natural number above zero. -/
abbrev Positive := { n : Nat // 0 < n }

/-- The integer above zero that a value is. -/
def readPositive (field : String) (value : Value) : Except OptionFault Positive :=
  match value with
  | .int (.ofNat (n + 1)) => .ok ⟨n + 1, Nat.succ_pos n⟩
  | _ => .error (OptionFault.showing (.notPositiveInteger field value) value)

/-- Whether a string has a character that is not white space. -/
def isFilled (s : String) : Bool :=
  s.toList.any fun c => !Text.isBlank c

/-- A string with a character that is not white space. -/
abbrev Filled := { s : String // isFilled s = true }

/-- The string that a value is, if it is not white space only. -/
def readFilled (field : String) (value : Value) : Except OptionFault Filled :=
  match value with
  | .str s => if h : isFilled s then .ok ⟨s, h⟩ else .error (.blank field value)
  | _ => .error (.blank field value)

/-! ## Sets of options -/

/-- A type of options: its name, its fields, and how all fields together are checked. -/
class OptionSet (α : Type) extends Inhabited α where
  className : String
  fields : α → Fields
  ofFields : Fields → Except OptionFault α

namespace OptionSet

variable {α : Type} [OptionSet α]

/-- The options with new values for some fields. -/
def update (options : α) (changes : Fields) : Except OptionFault α :=
  match (fields options).unknown? changes with
  | some name => .error (.unknownField (className α) name)
  | none => ofFields ((fields options).overlay changes)

/-- The options whose fields have the given values, and the default values elsewhere. -/
def ofChanges (changes : Fields) : Except OptionFault α :=
  update default changes

/-- An update of the options that are in use: the options in use after it, and what it came to. If
it is refused, the options before it stay in use. -/
def install (current : α) (changes : Fields) : α × Except OptionFault α :=
  match update current changes with
  | .ok next => (next, .ok next)
  | .error fault => (current, .error fault)

/-- The options in use after some updates, in order. -/
def installAll (current : α) (updates : List Fields) : α :=
  updates.foldl (fun current changes => (install current changes).1) current

end OptionSet

end MarkTex
