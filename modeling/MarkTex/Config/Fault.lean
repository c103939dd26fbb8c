import MarkTex.Config.Calendar
import MarkTex.Text.Utf8

/-!
# Faults in configuration files

Why the text of a configuration file is not read. Most texts fail because they do not follow the
grammar; others follow it and hold a number that is too long, a day that does not exist, or a text
that is not what its tag says.
-/

namespace MarkTex.Config

/-- Why a text that follows the grammar has no value. -/
inductive ValueFault where
  /-- A numeral cannot be read as an integer. -/
  | numeral (cause : Number.NumeralFault)
  /-- A text cannot be read as a double. -/
  | double (text : Text)
  /-- A part of a double counts more than any double. -/
  | tooLarge
  /-- A number has no characters. -/
  | noNumber
  /-- A word stands for neither yes nor no. -/
  | notTruth (word : Text)
  /-- An escape names a character by a number that is none's. -/
  | noCharacter (number : Nat)
  /-- A day or time does not exist. -/
  | calendar (cause : CalendarFault)
  /-- A text names no point in time. -/
  | notMoment
  /-- A mapping stands for a point in time. -/
  | momentMapping
  /-- Too many collections lie inside each other; `activity` is the end of the message about them.
  -/
  | tooDeep (activity : String)
  /-- The bytes of the text are no characters from some place on. -/
  | undecodable (cause : Text.Utf8Fault)
  deriving DecidableEq, Repr

/-- What is wrong with a value. -/
def ValueFault.message : ValueFault → String
  | numeral cause => cause.message
  | double text => "could not convert string to float: " ++ String.ofList (Text.quoted text)
  | tooLarge => "int too large to convert to float"
  | noNumber => "string index out of range"
  | notTruth word => String.ofList (Text.quoted word)
  | noCharacter n =>
    if n < 0x80000000 then "chr() arg not in range(0x110000)"
    else "Python int too large to convert to C int"
  | calendar cause => cause.message
  | notMoment => "'NoneType' object has no attribute 'groupdict'"
  | momentMapping => "expected string or bytes-like object, got 'list'"
  | tooDeep activity => "maximum recursion depth exceeded" ++ activity
  | undecodable cause => cause.message

/-- Why a text is not read. -/
inductive Fault where
  /-- The text does not follow the grammar. -/
  | malformed
  /-- The text follows the grammar and has no value. -/
  | value (cause : ValueFault)
  deriving DecidableEq, Repr

namespace Fault

/-- A numeral that follows the grammar and still cannot be read. -/
def numeral (cause : Number.NumeralFault) : Fault :=
  .value (.numeral cause)

/-- A day or time that follows the grammar and does not exist. -/
def calendar (cause : CalendarFault) : Fault :=
  .value (.calendar cause)

end Fault

/-- The room for collections that lie inside each other. Each takes up some of it, in every format
its own share. -/
def nestingRoom : Nat := 985

/-- What is left of the room for collections inside of one that takes up `share`. -/
def takeRoom (room share : Nat) (activity : String) : Except Fault Nat :=
  if share ≤ room then .ok (room - share) else .error (.value (.tooDeep activity))

/-- The value, or a malformed text where there is none. -/
def orMalformed {α : Type} : Option α → Except Fault α
  | some a => .ok a
  | none => .error .malformed

end MarkTex.Config
