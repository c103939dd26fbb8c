import MarkTex.Config.Fault
import MarkTex.Config.Yaml.Tag
import MarkTex.Text.Base64
import MarkTex.Text.Case

/-!
# Texts as values

What a text stands for under the tag of its node. A tag that was written out may stand with any
text, so most tags have texts that they cannot be read from.
-/

namespace MarkTex.Config.Yaml

/-- The sign of a number, and the rest; a number has at least one character. -/
def takeSign (t : Text) : Except Fault (Int × Text) :=
  match t with
  | [] => .error (.value .noNumber)
  | '-' :: r => .ok (-1, r)
  | '+' :: r => .ok (1, r)
  | t => .ok (1, t)

/-- A text without its underscores. -/
def dropGaps (t : Text) : Text :=
  t.filter (· != '_')

/-- The integer that a text stands for in a base. -/
def readBase (base : Nat) (t : Text) : Except Fault Int :=
  (Number.readIntIn base t).mapError Fault.numeral

/-- The integer whose parts of sixty these are. -/
def readSixtieths (total : Int) : List Text → Except Fault Int
  | [] => .ok total
  | part :: parts =>
    match readBase 10 part with
    | .ok n => readSixtieths (60 * total + n) parts
    | .error fault => .error fault

/-- The integer that a text without a sign stands for. -/
def readUnsignedInt : Text → Except Fault Int
  | [] => .error (.value .noNumber)
  | ['0'] => .ok 0
  | '0' :: 'b' :: r => readBase 2 r
  | '0' :: 'x' :: r => readBase 16 r
  | '0' :: r => readBase 8 ('0' :: r)
  | t => readSixtieths 0 (Text.splitAt ':' t)

/-- The integer that a text stands for. -/
def readInt (t : Text) : Except Fault Int := do
  let (sign, t) ← takeSign (dropGaps t)
  let n ← readUnsignedInt t
  return sign * n

/-- The double that a text stands for by its digits. -/
def readDouble (t : Text) : Except Fault Float :=
  match Number.readFloat? t with
  | some x => .ok x
  | none => .error (.value (.double t))

/-- The doubles that some texts stand for. -/
def readDoubles : List Text → Except Fault (List Float)
  | [] => .ok []
  | t :: ts => do
    let x ← readDouble t
    let xs ← readDoubles ts
    return x :: xs

/-- The sum of the parts of a double, last part first, where the first one counts `unit`. -/
def addParts (unit : Int) (total : Float) : List Float → Except Fault Float
  | [] => .ok total
  | x :: xs =>
    match Number.floatOfInt? unit with
    | some u => addParts (unit * 60) (total + x * u) xs
    | none => .error (.value .tooLarge)

/-- The double that a text without a sign stands for. -/
def readUnsignedFloat (t : Text) : Except Fault Float :=
  if t = ".inf".toList then .ok (1.0 / 0.0)
  else if t = ".nan".toList then .ok (0.0 / 0.0)
  else if t.contains ':' then do
    let parts ← readDoubles (Text.splitAt ':' t)
    addParts 1 0.0 parts.reverse
  else readDouble t

/-- The double that a text stands for. -/
def readFloat (t : Text) : Except Fault Float := do
  let (sign, t) ← takeSign (Text.lower (dropGaps t))
  let x ← readUnsignedFloat t
  return if sign < 0 then -x else x

/-- Whether a text stands for yes. -/
def readBool (t : Text) : Except Fault Bool :=
  let word := Text.lower t
  if yesWords.contains word then .ok true
  else if noWords.contains word then .ok false
  else .error (.value (.notTruth word))

/-- The bytes that a text stands for; its characters are ASCII. -/
def readBinary (t : Text) : Except Fault Bytes :=
  if t.all fun c => c.toNat < 0x80 then orMalformed (Text.Base64.decode t) else .error .malformed

/-- The point in time, if it exists. -/
def RawMoment.check (m : RawMoment) : Except CalendarFault Moment :=
  match m.clock with
  | none => day m.year m.month m.date
  | some (clock, offset) => stamp m.year m.month m.date clock offset

/-- The point in time that a text stands for. -/
def readMomentOf (t : Text) : Except Fault Moment :=
  match readMoment (dropLineEnd t) with
  | none => .error (.value .notMoment)
  | some m => m.check.mapError Fault.calendar

/-- The value of a text under a tag; not all tags are tags of texts. -/
def readLeaf (tag : Tag) (t : Text) : Except Fault Value :=
  match tag with
  | .null => .ok .null
  | .bool => (readBool t).map Value.bool
  | .int => (readInt t).map Value.int
  | .float => (readFloat t).map Value.float
  | .binary => (readBinary t).map Value.bytes
  | .moment => (readMomentOf t).map Value.moment
  | .text => .ok (.str (String.ofList t))
  | _ => .error .malformed

end MarkTex.Config.Yaml
