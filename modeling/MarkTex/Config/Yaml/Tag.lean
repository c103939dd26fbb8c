import MarkTex.Text.Digit
import MarkTex.Value

/-!
# Tags of YAML

A tag says what a node stands for. A plain text without one gets it by its looks: it is nothing, a
yes or no, a number, a point in time, or a text. Integers may be written in base two, eight, ten or
sixteen, or in parts of sixty; a number with a point is a double.
-/

namespace MarkTex.Config.Yaml

/-- What a node stands for. -/
inductive Tag where
  | null
  | bool
  | int
  | float
  | binary
  | moment
  | text
  | sequence
  | mapping
  | set
  /-- A sequence of pairs, each written as a mapping. -/
  | pairs
  /-- The key whose value is merged into its mapping. -/
  | merge
  /-- The key whose value the text of its mapping is. -/
  | default
  /-- Something that no value stands for. -/
  | unknown
  deriving DecidableEq, Repr

/-- The start of the names of the tags that are part of YAML. -/
def coreTag : Text := "tag:yaml.org,2002:".toList

/-- The tags that are part of YAML, by the rest of their names. -/
def coreTags : List (String × Tag) :=
  [("null", .null), ("bool", .bool), ("int", .int), ("float", .float), ("binary", .binary),
    ("timestamp", .moment), ("str", .text), ("seq", .sequence), ("map", .mapping), ("set", .set),
    ("omap", .pairs), ("pairs", .pairs), ("merge", .merge), ("value", .default)]

/-- The tag of a name that is written out in full. -/
def Tag.ofName (name : Text) : Tag :=
  ((coreTags.find? fun (rest, _) => name = coreTag ++ rest.toList).map (·.2)).getD .unknown

/-! ## Numbers -/

/-- Whether `c` is a digit or an underscore. -/
def isDigitOrGap (c : Char) : Bool :=
  Text.isAsciiDigit c || c == '_'

/-- The text after a sign, if there is one. -/
def dropSign (t : Text) : Text :=
  match t with
  | '+' :: r => r
  | '-' :: r => r
  | t => t

/-- Whether a part of sixty follows a colon: one digit, or two up to 59. -/
def isSixtieth (t : Text) : Bool :=
  match t with
  | [d] => Text.isAsciiDigit d
  | [d, e] => '0' ≤ d && d ≤ '5' && Text.isAsciiDigit e
  | _ => false

/-- Whether a text consists of a number and at least one part of sixty. -/
def isSexagesimal (start : Char → Bool) (t : Text) : Bool :=
  match Text.splitAt ':' t with
  | (c :: r) :: part :: parts =>
    start c && r.all isDigitOrGap && (part :: parts).all isSixtieth
  | _ => false

/-- Whether `c` is a digit other than zero. -/
def isLeadingDigit (c : Char) : Bool :=
  Text.isAsciiDigit c && c != '0'

/-- Whether a text is not empty, and all its characters satisfy `p`. -/
def isRun (p : Char → Bool) (t : Text) : Bool :=
  !t.isEmpty && t.all p

/-- Whether a text looks like an integer. -/
def looksInt (t : Text) : Bool :=
  let t := dropSign t
  match t with
  | ['0'] => true
  | '0' :: 'b' :: r => isRun (fun c => c == '0' || c == '1' || c == '_') r
  | '0' :: 'x' :: r => isRun (fun c => (Text.hexValue? c).isSome || c == '_') r
  | '0' :: r => r.all fun c => ('0' ≤ c && c ≤ '7') || c == '_'
  | c :: r => (isLeadingDigit c && r.all isDigitOrGap) || isSexagesimal isLeadingDigit (c :: r)
  | [] => false

/-- Whether a text is an exponent with a sign, or empty. -/
def looksExponent (t : Text) : Bool :=
  match t with
  | [] => true
  | e :: s :: r => (e == 'e' || e == 'E') && (s == '+' || s == '-') && isRun Text.isAsciiDigit r
  | _ => false

/-- Whether a text is what may follow the point of a double. -/
def looksFraction (t : Text) : Bool :=
  looksExponent (t.dropWhile isDigitOrGap)

/-- Whether a text looks like a double. -/
def looksFloat (t : Text) : Bool :=
  let body := dropSign t
  if [".inf", ".Inf", ".INF"].any fun word => body = word.toList then true
  else if [".nan", ".NaN", ".NAN"].any fun word => t = word.toList then true
  else
    match t with
    | '.' :: d :: r => Text.isAsciiDigit d && looksFraction r
    | _ =>
      match body.span (· != '.') with
      | (c :: whole, '.' :: fraction) =>
        (Text.isAsciiDigit c && whole.all isDigitOrGap && looksFraction fraction) ||
          (isSexagesimal Text.isAsciiDigit (c :: whole) && fraction.all isDigitOrGap)
      | _ => false

/-! ## Words -/

/-- The words that stand for yes. -/
def yesWords : List Text :=
  ["yes", "Yes", "YES", "true", "True", "TRUE", "on", "On", "ON"].map String.toList

/-- The words that stand for no. -/
def noWords : List Text :=
  ["no", "No", "NO", "false", "False", "FALSE", "off", "Off", "OFF"].map String.toList

/-- The texts that stand for nothing. -/
def nullWords : List Text :=
  ["", "~", "null", "Null", "NULL"].map String.toList

/-- The characters that start other nodes and stand for nothing by themselves. -/
def indicators : List Text :=
  ["!", "&", "*"].map String.toList

/-! ## Times -/

/-- Digits, `low` to `high` of them, as a number. -/
def readDigits (low high : Nat) (t : Text) : Option (Nat × Text) :=
  let digits := (t.takeWhile Text.isAsciiDigit).take high
  if digits.length < low then none
  else
    let n := digits.foldl (fun n d => 10 * n + (d.toNat - 48)) 0
    some (n, t.drop digits.length)

/-- The text after character `c`. -/
def dropMark (c : Char) (t : Text) : Option Text :=
  match t with
  | [] => none
  | x :: r => if x = c then some r else none

/-- The text after blanks. -/
def skipBlanks (t : Text) : Text :=
  t.dropWhile fun c => c = ' ' || c = '\t'

/-- The distance from universal time at the end of a time, in seconds. -/
def readOffset (t : Text) : Option (Option Int) :=
  let signed (sign : Int) (r : Text) : Option (Option Int) := do
    let (hours, r) ← readDigits 1 2 r
    match r with
    | [] => return some (sign * (3600 * hours))
    | r =>
      let r ← dropMark ':' r
      let (minutes, r) ← readDigits 2 2 r
      if r.isEmpty then return some (sign * (3600 * hours + 60 * minutes)) else none
  match skipBlanks t with
  | [] => if t.isEmpty then some none else none
  | ['Z'] => some (some 0)
  | '+' :: r => signed 1 r
  | '-' :: r => signed (-1) r
  | _ => none

/-- The microseconds that the digits after a point stand for. -/
def microseconds (digits : Text) : Nat :=
  ((digits ++ List.replicate 6 '0').take 6).foldl (fun n d => 10 * n + (d.toNat - 48)) 0

/-- The time and the distance from universal time after a day. -/
def readClock (t : Text) : Option (Clock × Option Int) := do
  let (hour, t) ← readDigits 1 2 t
  let t ← dropMark ':' t
  let (minute, t) ← readDigits 2 2 t
  let t ← dropMark ':' t
  let (second, t) ← readDigits 2 2 t
  let (digits, t) :=
    match t with
    | '.' :: r => r.span Text.isAsciiDigit
    | t => ([], t)
  let offset ← readOffset t
  return (⟨hour, minute, second, microseconds digits⟩, offset)

/-- A point in time that may not exist. -/
structure RawMoment where
  year : Nat
  month : Nat
  date : Nat
  clock : Option (Clock × Option Int)

/-- A point in time: a day, and a time unless there is none. -/
def readMoment (t : Text) : Option RawMoment := do
  let (year, t) ← readDigits 4 4 t
  let t ← dropMark '-' t
  let (month, t) ← readDigits 1 2 t
  let t ← dropMark '-' t
  let (date, t) ← readDigits 1 2 t
  match t with
  | [] => return ⟨year, month, date, none⟩
  | 'T' :: r => return ⟨year, month, date, some (← readClock r)⟩
  | 't' :: r => return ⟨year, month, date, some (← readClock r)⟩
  | t =>
    let r := skipBlanks t
    if r.length < t.length then return ⟨year, month, date, some (← readClock r)⟩ else none

/-- The number of characters of a day whose month and date have two digits each. -/
def dayLength : Nat := 10

/-- Whether a text looks like a point in time. In a day without a time, the month and the date have
two digits each. -/
def looksMoment (t : Text) : Bool :=
  match readMoment t with
  | some m => m.clock.isSome || t.length = dayLength
  | none => false

/-! ## Looks -/

/-- The text without the line end that it ends with, unless that is all of it. -/
def dropLineEnd (t : Text) : Text :=
  if 1 < t.length && t.getLast? = some '\n' then t.dropLast else t

/-- What a plain text without a tag stands for. A line end at its end does not count. -/
def Tag.ofPlain (t : Text) : Tag :=
  let t := dropLineEnd t
  if nullWords.contains t then .null
  else if yesWords.contains t || noWords.contains t then .bool
  else if looksFloat t then .float
  else if looksInt t then .int
  else if looksMoment t then .moment
  else if t = "<<".toList then .merge
  else if t = ['='] then .default
  else if indicators.contains t then .unknown
  else .text

end MarkTex.Config.Yaml
