import MarkTex.Number.Shortest
import MarkTex.Text.Basic
import MarkTex.Text.Digit
import MarkTex.Text.Quoted

/-!
# Numerals

How numbers are written and read. A double is written with the fewest digits that read back: in full
from `1e-04` up to `1e16`, with an exponent of at least two digits elsewhere, and always with a
point or an exponent. Integers and doubles are read from digits of any script, with single
underscores between digits and white space around the numeral. Integers are read in a base up to
sixteen.
-/

namespace MarkTex.Number

/-! ## Writing -/

/-- A decimal written out: its digits with the point set, or in exponent form. -/
def Decimal.write (d : Decimal) : Text :=
  let digits := Nat.toDigits 10 d.digits
  let point : Int := d.exponent + digits.length
  if -4 < point && point ≤ 16 then
    if point ≤ 0 then '0' :: '.' :: (List.replicate (-point).toNat '0' ++ digits)
    else if d.exponent ≥ 0 then digits ++ List.replicate d.exponent.toNat '0' ++ ['.', '0']
    else digits.take point.toNat ++ '.' :: digits.drop point.toNat
  else
    let power := point - 1
    let magnitude := Nat.toDigits 10 power.natAbs
    let mantissa :=
      match digits with
      | first :: next :: rest => first :: '.' :: next :: rest
      | few => few
    mantissa ++ ['e', if power < 0 then '-' else '+'] ++
      List.replicate (2 - magnitude.length) '0' ++ magnitude

/-- Whether the sign bit of a double is set. -/
def isNegative (x : Float) : Bool :=
  x.toBits >>> 63 == 1

/-- A double as text. -/
def writeFloat (x : Float) : Text :=
  if x.isNaN then "nan".toList
  else
    let sign := if isNegative x then ['-'] else []
    if x.isInf then sign ++ "inf".toList
    else
      let bits := x.toBits &&& 0x7FFFFFFFFFFFFFFF
      if bits == 0 then sign ++ "0.0".toList
      else sign ++ (Binary.ofBits bits).shortest.write

/-- An integer as text. -/
def writeInt (i : Int) : Text :=
  (toString i).toList

/-! ## Reading -/

/-- Why a text is no integer. -/
inductive NumeralFault where
  /-- The text is not an integer numeral in a base. -/
  | malformed (base : Nat) (text : Text)
  /-- The numeral has more digits than are read. -/
  | tooManyDigits (count : Nat)
  deriving DecidableEq, Repr

/-- The most digits that are read as one integer, unless the base is a power of two. -/
def mostDigits : Nat := 4300

/-- The most characters of a text that messages about it show, with its quotation marks. -/
def mostShown : Nat := 200

/-- What is wrong with a text that should be an integer. -/
def NumeralFault.message : NumeralFault → String
  | malformed base text =>
    s!"invalid literal for int() with base {base}: " ++
      String.ofList ((Text.quoted text).take mostShown)
  | tooManyDigits count =>
    s!"Exceeds the limit ({mostDigits} digits) for integer string conversion: value has {count} " ++
      "digits; use sys.set_int_max_str_digits() to increase the limit"

/-- Whether `c` is white space that may stand around a numeral: all but the separators of the ASCII
range. -/
def isMargin (c : Char) : Bool :=
  Text.isBlank c && !('\x1C' ≤ c && c ≤ '\x1F')

/-- The text without the white space around a numeral. -/
def trimMargins (t : Text) : Text :=
  Text.trimBy isMargin t

/-- The sign in front of a numeral, and the rest. -/
def cutSign : Text → Bool × Text
  | '-' :: r => (true, r)
  | '+' :: r => (false, r)
  | t => (false, t)

/-- The value of a digit of any script, or of a letter that is a digit of base sixteen. -/
def anyDigit? (c : Char) : Option Nat :=
  match Text.digitValue? c with
  | some v => some v
  | none => Text.hexValue? c

/-- The value of a digit in a base. -/
def digitIn? (base : Nat) (c : Char) : Option Nat :=
  (anyDigit? c).filter (· < base)

/-- The values of the digits that a text in a base starts with, and the rest. A single underscore
may stand between two digits. -/
def takeDigitsIn (base : Nat) : Text → List Nat × Text
  | '_' :: r => ([], '_' :: r)
  | c :: '_' :: d :: r =>
    match digitIn? base c with
    | none => ([], c :: '_' :: d :: r)
    | some v =>
      if (digitIn? base d).isSome then
        let (vs, rest) := takeDigitsIn base (d :: r)
        (v :: vs, rest)
      else ([v], '_' :: d :: r)
  | c :: r =>
    match digitIn? base c with
    | none => ([], c :: r)
    | some v =>
      let (vs, rest) := takeDigitsIn base r
      (v :: vs, rest)
  | [] => ([], [])

/-- The values of the decimal digits that a text starts with, and the rest. -/
def takeDigits (t : Text) : List Nat × Text :=
  takeDigitsIn 10 t

/-- The number that digits in a base stand for. -/
def ofDigitsIn (base : Nat) (digits : List Nat) : Nat :=
  digits.foldl (fun n d => base * n + d) 0

/-- The number that decimal digits stand for. -/
def ofDigits (digits : List Nat) : Nat :=
  ofDigitsIn 10 digits

/-- The text after the mark of a base: a zero and a letter of either case. -/
def dropBaseMark (base : Nat) (t : Text) : Text :=
  match t with
  | '0' :: c :: r =>
    let marks : List (Nat × Char) := [(2, 'b'), (2, 'B'), (8, 'o'), (8, 'O'), (16, 'x'), (16, 'X')]
    if marks.contains (base, c) then r else t
  | t => t

/-- The integer that a text names in a base. A numeral that is too long is refused without a look at
what follows it. -/
def readIntIn (base : Nat) (t : Text) : Except NumeralFault Int :=
  let (negative, body) := cutSign (trimMargins t)
  let (digits, rest) := takeDigitsIn base (dropBaseMark base body)
  if digits.isEmpty || rest.head? = some '_' then .error (.malformed base t)
  else if base = 10 && mostDigits < digits.length then .error (.tooManyDigits digits.length)
  else if !rest.isEmpty then .error (.malformed base t)
  else
    let n : Int := ofDigitsIn base digits
    .ok (if negative then -n else n)

/-- The integer that a text names. -/
def readInt (t : Text) : Except NumeralFault Int :=
  readIntIn 10 t

/-- The double closest to `digits · 10 ^ exponent`, infinite if that is too large. -/
def ofDecimal (digits : Nat) (exponent : Int) : Float :=
  let point := exponent + digitCount digits
  if digits == 0 || point < -400 then 0.0
  else if point > 400 then 1.0 / 0.0
  else Float.ofScientific digits (exponent < 0) exponent.natAbs

/-- The exponent that a numeral ends with, if nothing else follows. -/
def readExponent? : Text → Option Int
  | [] => some 0
  | c :: r =>
    if c = 'e' || c = 'E' then
      let (negative, body) := cutSign r
      match takeDigits body with
      | (d :: ds, []) =>
        let n : Int := ofDigits (d :: ds)
        some (if negative then -n else n)
      | _ => none
    else none

/-- The double that an unsigned numeral names. -/
def readUnsigned? (t : Text) : Option Float :=
  let word := t.map Char.toLower
  if word = "inf".toList || word = "infinity".toList then some (1.0 / 0.0)
  else if word = "nan".toList then some (0.0 / 0.0)
  else
    let (whole, r) := takeDigits t
    let (part, r) :=
      match r with
      | '.' :: r => takeDigits r
      | r => ([], r)
    if whole.isEmpty && part.isEmpty then none
    else (readExponent? r).map fun e => ofDecimal (ofDigits (whole ++ part)) (e - part.length)

/-- The double that a text names. -/
def readFloat? (t : Text) : Option Float :=
  let (negative, body) := cutSign (trimMargins t)
  (readUnsigned? body).map fun x => if negative then -x else x

/-! ## Between integers and doubles -/

/-- The double closest to an integer, unless that is too large. -/
def floatOfInt? (i : Int) : Option Float :=
  let x := Float.ofScientific i.natAbs false 0
  if x.isInf then none else some (if i < 0 then -x else x)

/-- The integer part of a finite double. -/
def truncate (x : Float) : Int :=
  let b := Binary.ofBits (x.toBits &&& 0x7FFFFFFFFFFFFFFF)
  let n : Nat := b.mantissa * Nat.pow 2 b.exponent.toNat / Nat.pow 2 (-b.exponent).toNat
  if isNegative x then -n else n

end MarkTex.Number
